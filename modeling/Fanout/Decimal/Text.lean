import Fanout.Decimal.Shortest

/-!
# Decimal text of binary64 values

One function writes every float text of the library from the shortest digits: a `FloatStyle`
record fixes where positional notation ends, whether `.0` is kept and how the exponent is
signed. Fixed places (`places` digits after the point) round the exact binary value, a tie going
to the even neighbour.

The three styles in use:
* `FloatStyle.plain`: always positional, no `.0` (`1`, `0.1`, `100000000000000000000`);
* `FloatStyle.debug`: positional for `1e-4 ≤ |x| < 1e16`, else `1e16`, `1.5e-5`; `.0` kept;
* `FloatStyle.report`: positional for decimal points between `-5` (exclusive) and `16` places,
  else `1e+20`, `1.8446744073709552e+19`; `.0` kept. Used in type-error messages.
-/

namespace Fanout.Decimal

/-- Where a style writes positional notation, given the scientific exponent `x` of the value
(`10^x ≤ |v| < 10^(x+1)`), and how it writes the rest. -/
structure FloatStyle where
  positional : Int → Bool
  minFraction : Nat
  plusExponent : Bool

/-- Always positional, and no fraction digits unless the value has some. -/
def FloatStyle.plain : FloatStyle := ⟨fun _ => true, 0, false⟩

/-- Positional from `1e-4` up to below `1e16`, with at least one fraction digit. -/
def FloatStyle.debug : FloatStyle := ⟨fun x => -4 ≤ x ∧ x < 16, 1, false⟩

/-- Positional while the point stands between `-5` (exclusive) and `16` digits from the first
digit, with at least one fraction digit; exponents carry their sign. -/
def FloatStyle.report : FloatStyle := ⟨fun x => -5 ≤ x ∧ x < 16, 1, true⟩

/-- The decimal digits of `n`, most significant first. -/
def digitString (n : Nat) : String :=
  String.ofList (Nat.toDigits 10 n)

/-- `n` copies of `c`. -/
def padding (n : Nat) (c : Char) : String :=
  String.ofList (List.replicate n c)

/-- Positional text of `d · 10^e` with at least `minFrac` fraction digits. -/
def positionalText (d : Digits) (minFrac : Nat) : String :=
  let s := digitString d.digits
  let len := s.length
  if d.exp ≥ 0 then
    s ++ padding d.exp.toNat '0' ++ (if minFrac > 0 then "." ++ padding minFrac '0' else "")
  else
    let fracLen := (-d.exp).toNat
    let body :=
      if fracLen < len then
        String.ofList (s.toList.take (len - fracLen)) ++ "." ++ String.ofList (s.toList.drop (len - fracLen))
      else
        "0." ++ padding (fracLen - len) '0' ++ s
    body ++ padding (minFrac - fracLen) '0'

/-- Scientific text `d.ddd e x` of `d · 10^e`. -/
def scientificText (d : Digits) (plus : Bool) : String :=
  let s := digitString d.digits
  let x : Int := d.exp + s.length - 1
  let mant := match s.toList with
    | [] => "0"
    | [c] => String.singleton c
    | c :: rest => String.singleton c ++ "." ++ String.ofList rest
  let sign := if x < 0 then "-" else if plus then "+" else ""
  mant ++ "e" ++ sign ++ digitString x.natAbs

/-- The text of a binary value in a style. -/
def Binary.render (style : FloatStyle) : Binary → String
  | .nan => "NaN"
  | .inf neg => if neg then "-inf" else "inf"
  | .finite neg m q =>
    let sign := if neg then "-" else ""
    if m = 0 then sign ++ positionalText ⟨0, 0⟩ style.minFraction
    else
      let d := shortest m q
      let x : Int := d.exp + (digitString d.digits).length - 1
      if style.positional x then sign ++ positionalText d style.minFraction
      else sign ++ scientificText d style.plusExponent

/-- The text of a float in a style. -/
def render (style : FloatStyle) (x : Float) : String :=
  (Binary.ofFloat x).render style

/-- The exact value rounded to `places` fraction digits, a tie going to the even neighbour; the
sign of the value is kept even when the rounded digits are all zero. -/
def Binary.fixed (places : Nat) : Binary → String
  | .nan => "NaN"
  | .inf neg => if neg then "-inf" else "inf"
  | .finite neg m q =>
    let sign := if neg then "-" else ""
    let num := m * pow2 q * Nat.pow 10 places
    let den := pow2 (-q)
    let r := roundHalfEven num den
    let s := digitString r
    let s := if s.length ≤ places then padding (places + 1 - s.length) '0' ++ s else s
    if places = 0 then sign ++ s
    else
      let cut := s.length - places
      sign ++ String.ofList (s.toList.take cut) ++ "." ++ String.ofList (s.toList.drop cut)

/-- A float with `places` fraction digits. -/
def fixed (places : Nat) (x : Float) : String :=
  (Binary.ofFloat x).fixed places

end Fanout.Decimal
