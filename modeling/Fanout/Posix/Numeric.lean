import Fanout.Decimal.Binary

/-!
# Numbers as the C library reads and writes them

Programs read numbers from text as `strtoimax`, `strtoumax` and `strtod` do, and write them as
`printf` conversions do. Both directions are exact: a number read is a rational, rounded once
to the binary format at hand (a tie goes to the even mantissa), and digits written are computed
from the exact binary value, again rounding a tie to even.

Reading reports how many characters it took (none when nothing could be read) and whether the
value was out of range. A floating-point value is out of range when it overflows to infinity, or
when it lands below the smallest normal number and is not exact there.

Two binary formats are used: double precision (53 bits of mantissa) and the x87 extended
precision of `long double` (64 bits).
-/

namespace Fanout.Posix

open Fanout.Decimal

/-! ## Binary formats -/

/-- A binary floating-point format, in the terms of the C library: the bits of mantissa, and the
exponents `e` of the normal numbers `m · 2^(e - digits)` with `2^(digits-1) ≤ m < 2^digits`. -/
structure FloatFormat where
  digits : Nat
  minExp : Int
  maxExp : Int
  deriving Inhabited, Repr

/-- Double precision. -/
def FloatFormat.double : FloatFormat := ⟨53, -1021, 1024⟩

/-- The x87 extended precision of `long double`. -/
def FloatFormat.extended : FloatFormat := ⟨64, -16381, 16384⟩

/-- A floating-point value: the finite `(-1)^neg · m · 2^e`, an infinity, or not a number. -/
inductive FloatValue where
  | finite (neg : Bool) (m : Nat) (e : Int)
  | inf (neg : Bool)
  | nan (neg : Bool)
  deriving Inhabited, Repr, BEq

/-- Whether the value's sign is negative. -/
def FloatValue.isNeg : FloatValue → Bool
  | .finite n _ _ => n
  | .inf n => n
  | .nan n => n

/-- The value with its sign flipped. -/
def FloatValue.negate : FloatValue → FloatValue
  | .finite n m e => .finite (!n) m e
  | .inf n => .inf (!n)
  | .nan n => .nan (!n)

/-- `a · 2^z` as a fraction of naturals. -/
def scale2 (a : Nat) (z : Int) : Nat × Nat :=
  if z ≥ 0 then (a * pow2 z, 1) else (a, pow2 (-z))

/-- The exponent `k` with `2^k ≤ a / b < 2^(k+1)`, for positive `a` and `b`. -/
def binaryExponent (a b : Nat) : Int :=
  let k0 : Int := (Nat.log2 a : Int) - (Nat.log2 b : Int)
  let (x, y) := if k0 ≥ 0 then (a, b * pow2 k0) else (a * pow2 (-k0), b)
  if x < y then k0 - 1 else k0

/-- The nearest value of format `f` to the positive fraction `a / b`: the value, whether it
overflowed, and whether it lies below the normal range without being exact. -/
def roundTo (f : FloatFormat) (a b : Nat) : FloatValue × Bool :=
  let k := binaryExponent a b
  let qmin := f.minExp - f.digits
  let e := max (k - (f.digits - 1 : Nat)) qmin
  let (num, den) := if e ≥ 0 then (a, b * pow2 e) else (a * pow2 (-e), b)
  let m := roundHalfEven num den
  let exact := m * den == num
  let (m, e) := if m == Nat.pow 2 f.digits then (Nat.pow 2 (f.digits - 1), e + 1) else (m, e)
  let tiny := k < f.minExp - 1
  if m != 0 && e + f.digits > f.maxExp then (.inf false, true)
  else (.finite false m e, tiny && !exact)

/-! ## Exact arithmetic on values -/

/-- A finite value as a signed fraction with a power of two below. -/
def FloatValue.fraction : FloatValue → Option (Int × Nat)
  | .finite neg m e =>
    let (a, b) := scale2 m e
    some (if neg then -(a : Int) else a, b)
  | _ => none

/-- The extended value nearest to a signed fraction. -/
def nearestExtended (n : Int) (d : Nat) : FloatValue :=
  if n == 0 then .finite false 0 0
  else
    let (v, _) := roundTo .extended n.natAbs d
    if n < 0 then v.negate else v

/-- The sum of two values, rounded. -/
def FloatValue.add (x y : FloatValue) : FloatValue :=
  match x.fraction, y.fraction with
  | some (a, b), some (c, d) => nearestExtended (a * d + c * b) (b * d)
  | _, _ =>
    match x, y with
    | .inf s, .inf t => if s == t then x else .nan false
    | .inf _, _ => x
    | _, .inf _ => y
    | _, _ => .nan false

/-- The product of an integer and a value, rounded. -/
def FloatValue.scale (x : FloatValue) (i : Nat) : FloatValue :=
  match x.fraction with
  | some (a, b) => nearestExtended (i * a) b
  | none => if i == 0 then .nan false else x

/-- Whether `x < y`; false when either is not a number. -/
def FloatValue.lt (x y : FloatValue) : Bool :=
  match x.fraction, y.fraction with
  | some (a, b), some (c, d) => decide (a * d < c * b)
  | _, _ =>
    match x, y with
    | .inf true, .inf true => false
    | .inf false, _ => false
    | .inf true, .nan _ => false
    | .inf true, _ => true
    | .nan _, _ => false
    | _, .inf s => !s
    | _, _ => false

/-- Whether two values are equal as numbers. -/
def FloatValue.same (x y : FloatValue) : Bool :=
  match x.fraction, y.fraction with
  | some (a, b), some (c, d) => a * d == c * b
  | _, _ =>
    match x, y with
    | .inf s, .inf t => s == t
    | _, _ => false

/-! ## Reading -/

/-- Whether a character is white space for the C library. -/
def isBlankC (c : Char) : Bool :=
  c == ' ' || c == '\t' || c == '\n' || c == '\r' || c == '\x0b' || c == '\x0c'

/-- The value of a digit in bases up to 36; 99 for a character that is no digit. -/
def digitValue (c : Char) : Nat :=
  if c.isDigit then c.toNat - '0'.toNat
  else if 'a' ≤ c && c ≤ 'z' then c.toNat - 'a'.toNat + 10
  else if 'A' ≤ c && c ≤ 'Z' then c.toNat - 'A'.toNat + 10
  else 99

/-- Split off a sign: whether it is negative, and the rest. -/
def takeSign : List Char → Bool × List Char
  | '-' :: r => (true, r)
  | '+' :: r => (false, r)
  | cs => (false, cs)

/-- The value of a run of digits in a base. -/
def digitsValue (base : Nat) (ds : List Char) : Nat :=
  ds.foldl (fun n c => n * base + digitValue c) 0

/-- Read an integer as `strtoimax` or `strtoumax` do with base `base` (zero: by its prefix,
`0x` for hexadecimal and `0` for octal): the value without any limit, and the characters
taken (none when no digit was read). -/
def scanInteger (base : Nat) (s : List Char) : Int × Nat :=
  let lead := (s.takeWhile isBlankC).length
  let (neg, body) := takeSign (s.drop lead)
  let signLen := (s.drop lead).length - body.length
  let hexStart := match body with
    | '0' :: x :: d :: _ => (x == 'x' || x == 'X') && digitValue d < 16
    | _ => false
  let (b, skip) :=
    if (base == 0 || base == 16) && hexStart then (16, 2)
    else if base == 0 then (if body.head? == some '0' then (8, 0) else (10, 0))
    else (base, 0)
  let ds := (body.drop skip).takeWhile fun c => digitValue c < b
  if ds.isEmpty then (0, 0)
  else
    let v := digitsValue b ds
    (if neg then -(v : Int) else v, lead + signLen + skip + ds.length)

/-- The largest value of `intmax_t`. -/
def intmaxMax : Int := 9223372036854775807

/-- Two to the 64th. -/
def twoTo64 : Nat := 18446744073709551616

/-- Clamp a value read to `intmax_t`: the value, and whether it was out of range. -/
def clampSigned (v : Int) : Int × Bool :=
  if v > intmaxMax then (intmaxMax, true)
  else if v < -intmaxMax - 1 then (-intmaxMax - 1, true)
  else (v, false)

/-- A value read by `strtoumax`: a negative one wraps around; the value, and whether it was out
of range (then the largest value). -/
def clampUnsigned (v : Int) : Nat × Bool :=
  if v.natAbs ≥ twoTo64 then (twoTo64 - 1, true)
  else if v < 0 then (twoTo64 - v.natAbs, false)
  else (v.toNat, false)

/-- Whether the characters start with `word`, in any case. -/
def startsWithFold (cs : List Char) (word : String) : Bool :=
  (cs.take word.length).map Char.toLower == word.toList

/-- Read a hexadecimal floating-point number after its `0x`: the value as a fraction, and the
characters taken; none when no digit follows. -/
def scanHexFloat (cs : List Char) : Option ((Nat × Nat) × Nat) :=
  let intDs := cs.takeWhile fun c => digitValue c < 16
  let rest := cs.drop intDs.length
  let (fracDs, rest) := match rest with
    | '.' :: r => let ds := r.takeWhile fun c => digitValue c < 16; (some ds, r.drop ds.length)
    | _ => (none, rest)
  let frac := fracDs.getD []
  if intDs.isEmpty && frac.isEmpty then none
  else
    let used := intDs.length + (if fracDs.isSome then 1 + frac.length else 0)
    let (expo, expLen) : Int × Nat := match rest with
      | p :: r =>
        if p == 'p' || p == 'P' then
          let (neg, r2) := takeSign r
          let ds := r2.takeWhile Char.isDigit
          if ds.isEmpty then (0, 0)
          else
            let v : Int := digitsValue 10 ds
            (if neg then -v else v, 1 + (r.length - r2.length) + ds.length)
        else (0, 0)
      | [] => (0, 0)
    let mant := digitsValue 16 (intDs ++ frac)
    -- a power of two beyond every format's range is held at one just beyond it
    let size : Int := 4 * ((intDs ++ frac).dropWhile (· == '0')).length
    let z := expo - 4 * (frac.length : Int)
    let z := if mant == 0 then 0 else max (min z 17000) (-(size + 17000))
    some (scale2 mant z, used + expLen)

/-- Read a decimal number: the value as a fraction, and the characters taken; none when no
digit comes first. -/
def scanDecimal (cs : List Char) : Option ((Nat × Nat) × Nat) :=
  let intDs := cs.takeWhile Char.isDigit
  let rest := cs.drop intDs.length
  let (fracDs, rest) := match rest with
    | '.' :: r => let ds := r.takeWhile Char.isDigit; (some ds, r.drop ds.length)
    | _ => (none, rest)
  let frac := fracDs.getD []
  if intDs.isEmpty && frac.isEmpty then none
  else
    let used := intDs.length + (if fracDs.isSome then 1 + frac.length else 0)
    let (expo, expLen) : Int × Nat := match rest with
      | e :: r =>
        if e == 'e' || e == 'E' then
          let (neg, r2) := takeSign r
          let ds := r2.takeWhile Char.isDigit
          if ds.isEmpty then (0, 0)
          else
            let v : Int := digitsValue 10 ds
            (if neg then -v else v, 1 + (r.length - r2.length) + ds.length)
        else (0, 0)
      | [] => (0, 0)
    let mant := digitsValue 10 (intDs ++ frac)
    -- a power of ten beyond every format's range is held at one just beyond it
    let size : Int := ((intDs ++ frac).dropWhile (· == '0')).length
    let z := expo - (frac.length : Int)
    let z := if mant == 0 then 0 else max (min z 5000) (-(size + 5000))
    let v := if z ≥ 0 then (mant * pow10 z, 1) else (mant, pow10 (-z))
    some (v, used + expLen)

/-- Read a floating-point number as `strtod` does, into format `f`: the value, the characters
taken (none when nothing could be read), and whether it was out of range. -/
def scanFloat (f : FloatFormat) (s : List Char) : FloatValue × Nat × Bool :=
  let lead := (s.takeWhile isBlankC).length
  let (neg, body) := takeSign (s.drop lead)
  let pre := lead + ((s.drop lead).length - body.length)
  let sign (v : FloatValue) : FloatValue := if neg then v.negate else v
  if startsWithFold body "infinity" then (sign (.inf false), pre + 8, false)
  else if startsWithFold body "inf" then (sign (.inf false), pre + 3, false)
  else if startsWithFold body "nan" then
    let r := body.drop 3
    let inner := match r with
      | '(' :: r2 =>
        let ds := r2.takeWhile fun c => c.isAlphanum || c == '_'
        if (r2.drop ds.length).head? == some ')' then ds.length + 2 else 0
      | _ => 0
    (sign (.nan false), pre + 3 + inner, false)
  else
    let fromFraction (q : Nat × Nat) (used : Nat) : FloatValue × Nat × Bool :=
      if q.1 == 0 then (sign (.finite false 0 0), pre + used, false)
      else
        let (v, range) := roundTo f q.1 q.2
        (sign v, pre + used, range)
    let hex := match body with
      | '0' :: x :: r => if x == 'x' || x == 'X' then scanHexFloat r else none
      | _ => none
    match hex with
    | some (q, used) => fromFraction q (used + 2)
    | none =>
      match scanDecimal body with
      | some (q, used) => fromFraction q used
      | none => (.finite false 0 0, 0, false)

/-! ## Writing -/

/-- A conversion of `printf`: its flags, width, precision and letter. -/
structure ConvSpec where
  left : Bool := false
  plus : Bool := false
  space : Bool := false
  alt : Bool := false
  zero : Bool := false
  width : Option Nat := none
  precision : Option Nat := none
  conv : Char := 's'
  deriving Inhabited, Repr

/-- `n` copies of a character. -/
def fill (n : Nat) (c : Char) : String := String.ofList (List.replicate n c)

/-- Pad a converted number to the width: after its prefix with zeros when `zeros` (and the
value is finite), else before it with blanks, or after it all when left-justified. -/
def padNumber (sp : ConvSpec) (zeros : Bool) (pre body : String) : String :=
  let len := pre.length + body.length
  match sp.width with
  | some w =>
    if len ≥ w then pre ++ body
    else if sp.left then pre ++ body ++ fill (w - len) ' '
    else if zeros then pre ++ fill (w - len) '0' ++ body
    else fill (w - len) ' ' ++ pre ++ body
  | none => pre ++ body

/-- Pad bytes to the width with blanks. -/
def padBlank (sp : ConvSpec) (body : String) : String :=
  match sp.width with
  | some w =>
    if body.length ≥ w then body
    else if sp.left then body ++ fill (w - body.length) ' '
    else fill (w - body.length) ' ' ++ body
  | none => body

/-- The digits of `n` in a base, in lower or upper case. -/
def digitText (base : Nat) (upper : Bool) (n : Nat) : String :=
  let ds := Nat.toDigits base n
  String.ofList (if upper then ds.map Char.toUpper else ds)

/-- Apply an integer conversion's precision: at least that many digits, and none for zero
with precision zero. -/
def withPrecision (sp : ConvSpec) (n : Nat) (ds : String) : String :=
  match sp.precision with
  | some 0 => if n == 0 then "" else ds
  | some p => fill (p - ds.length) '0' ++ ds
  | none => ds

/-- Format `%d` or `%i`. -/
def formatSigned (sp : ConvSpec) (v : Int) : String :=
  let ds := withPrecision sp v.natAbs (digitText 10 false v.natAbs)
  let pre := if v < 0 then "-" else if sp.plus then "+" else if sp.space then " " else ""
  padNumber sp (sp.zero && !sp.left && sp.precision.isNone) pre ds

/-- Format `%o`, `%u`, `%x` or `%X`. -/
def formatUnsigned (sp : ConvSpec) (v : Nat) : String :=
  let base := if sp.conv == 'o' then 8 else if sp.conv == 'u' then 10 else 16
  let ds := withPrecision sp v (digitText base (sp.conv == 'X') v)
  let (pre, ds) :=
    if sp.alt && sp.conv == 'o' then (if ds.startsWith "0" then ("", ds) else ("", "0" ++ ds))
    else if sp.alt && v != 0 && sp.conv == 'x' then ("0x", ds)
    else if sp.alt && v != 0 && sp.conv == 'X' then ("0X", ds)
    else ("", ds)
  padNumber sp (sp.zero && !sp.left && sp.precision.isNone) pre ds

/-- The exponent `k` with `10^k ≤ a / b < 10^(k+1)`, for positive `a` and `b`. -/
def decimalExponentOf (a b : Nat) : Int :=
  if a ≥ b then ((toString (a / b)).length : Int) - 1
  else
    let d := (toString (b / a)).length
    if a * Nat.pow 10 (d - 1) ≥ b then -((d - 1 : Nat) : Int) else -(d : Int)

/-- `a / b · 10^z` rounded to a natural number, a tie going to even. -/
def roundScaled (a b : Nat) (z : Int) : Nat :=
  if z ≥ 0 then roundHalfEven (a * pow10 z) b else roundHalfEven a (b * pow10 (-z))

/-- The digits of `a / b` in `%e` style with `p` digits after the point: the `p + 1` digits
and the decimal exponent. Zero has exponent zero. -/
def scientificDigits (a b p : Nat) : Nat × Int :=
  if a == 0 then (0, 0)
  else
    let k := decimalExponentOf a b
    let n := roundScaled a b ((p : Int) - k)
    if n ≥ Nat.pow 10 (p + 1) then (roundScaled a b ((p : Int) - k - 1), k + 1) else (n, k)

/-- `n` written with exactly `p` digits after a point (and the point only when `p > 0` or
`point` asks for it). -/
def pointed (n p : Nat) (point : Bool) : String :=
  let s := toString n
  let s := fill (p + 1 - s.length) '0' ++ s
  let whole := (s.dropEnd p).toString
  let frac := (s.drop (s.length - p)).toString
  if p == 0 then (if point then whole ++ "." else whole) else whole ++ "." ++ frac

/-- The exponent part of `%e`: a sign and at least two digits. -/
def exponentText (upper : Bool) (k : Int) : String :=
  let ds := toString k.natAbs
  (if upper then "E" else "e") ++ (if k < 0 then "-" else "+") ++ fill (2 - ds.length) '0' ++ ds

/-- Drop trailing zeros after a point, and the point when nothing follows it. -/
def trimZeros (s : String) : String :=
  if !s.contains '.' then s
  else
    let cs := (s.toList.reverse.dropWhile (· == '0'))
    let cs := match cs with
      | '.' :: r => r
      | _ => cs
    String.ofList cs.reverse

/-- `%f`, `%e` or `%g` of the non-negative `a / b`, without sign or padding. -/
def decimalBody (sp : ConvSpec) (a b : Nat) : String :=
  let upper := sp.conv.isUpper
  let p := sp.precision.getD 6
  match sp.conv.toLower with
  | 'f' => pointed (roundScaled a b p) p sp.alt
  | 'e' =>
    let (n, k) := scientificDigits a b p
    pointed n p sp.alt ++ exponentText upper k
  | _ =>
    let p := if p == 0 then 1 else p
    let (_, x) := scientificDigits a b (p - 1)
    let body :=
      if x < p && x ≥ -4 then
        let q := ((p : Int) - 1 - x).toNat
        pointed (roundScaled a b q) q sp.alt
      else
        let (n, k) := scientificDigits a b (p - 1)
        pointed n (p - 1) sp.alt ++ exponentText upper k
    if sp.alt then body
    else if x < p && x ≥ -4 then trimZeros body
    else
      match body.splitOn (if upper then "E" else "e") with
      | [m, e] => trimZeros m ++ (if upper then "E" else "e") ++ e
      | _ => body

/-- `%a` of the non-negative `m · 2^e` in format `f`, without sign or padding. The first hex
digit holds the top bit of a double's mantissa alone, and the top four bits of an extended
one; a value below the normal range is written from the smallest normal exponent. -/
def hexBody (f : FloatFormat) (sp : ConvSpec) (m : Nat) (e : Int) : String :=
  let upper := sp.conv.isUpper
  let lead := if f.digits == 64 then 4 else 1
  let fracBits := f.digits - lead
  let fracDigits := (fracBits + 3) / 4
  let pad := 4 * fracDigits - fracBits
  let (m, e) :=
    if m == 0 then (0, (0 : Int))
    else
      -- normalize to `digits` bits, or to the smallest exponent below the normal range
      let k := Nat.log2 m
      let shift : Int := (f.digits - 1 : Nat) - (k : Int)
      let e2 := e - shift
      let emin := f.minExp - f.digits
      if e2 < emin then
        let s := emin - e
        (if s ≥ 0 then m / pow2 s else m * pow2 (-s), emin)
      else (if shift ≥ 0 then m * pow2 shift else m / pow2 (-shift), e2)
  let total := m * pow2 pad
  let expo : Int := if m == 0 then 0 else e + (fracBits : Int)
  let (total, digits) := match sp.precision with
    | some p =>
      if p ≥ fracDigits then (total * Nat.pow 16 (p - fracDigits), p)
      else
        let drop := Nat.pow 16 (fracDigits - p)
        (roundHalfEven total drop, p)
    | none =>
      -- as few digits as show the value exactly
      let rec shortest : Nat → Nat → Nat → Nat × Nat
        | 0, t, d => (t, d)
        | fuel + 1, t, d => if d > 0 && t % 16 == 0 then shortest fuel (t / 16) (d - 1) else (t, d)
      shortest (fracDigits + 1) total fracDigits
  let scaleDown := Nat.pow 16 digits
  let leadDigit := total / scaleDown
  let frac := total % scaleDown
  let fracText := if digits == 0 then "" else
    let t := digitText 16 upper frac
    fill (digits - t.length) '0' ++ t
  let point := if digits > 0 || sp.alt then "." else ""
  (if upper then "0X" else "0x") ++ digitText 16 upper leadDigit ++ point ++ fracText ++
    (if upper then "P" else "p") ++ (if expo < 0 then "-" else "+") ++ toString expo.natAbs

/-- Format a floating-point conversion of value `v` held in format `f`. -/
def formatFloat (f : FloatFormat) (sp : ConvSpec) (v : FloatValue) : String :=
  let upper := sp.conv.isUpper
  let sign := if v.isNeg then "-" else if sp.plus then "+" else if sp.space then " " else ""
  match v with
  | .inf _ => padNumber sp false sign (if upper then "INF" else "inf")
  | .nan _ => padNumber sp false sign (if upper then "NAN" else "nan")
  | .finite _ m e =>
    let body :=
      if sp.conv.toLower == 'a' then hexBody f sp m e
      else
        let (a, b) := scale2 m e
        decimalBody sp a b
    if sp.conv.toLower == 'a' then
      let pre := sign ++ (body.take 2).toString
      padNumber sp (sp.zero && !sp.left) pre (body.drop 2).toString
    else padNumber sp (sp.zero && !sp.left) sign body

end Fanout.Posix
