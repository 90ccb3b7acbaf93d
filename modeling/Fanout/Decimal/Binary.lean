/-!
# Binary floating-point values

A binary64 number read off its bit pattern: a sign and either NaN, an infinity, or an exact
rational `m · 2^q` with a natural mantissa. Every decimal rendering in the library starts here,
so that digits are computed in exact `Nat` arithmetic and never through `Float` printing.
-/

namespace Fanout.Decimal

/-- A binary64 value by its parts. A finite value is `(-1)^neg · m · 2^q`. -/
inductive Binary where
  /-- Not a number. -/
  | nan
  /-- Positive or negative infinity. -/
  | inf (neg : Bool)
  /-- The exact value `(-1)^neg · m · 2^q`; zero has `m = 0`. -/
  | finite (neg : Bool) (m : Nat) (q : Int)
  deriving Repr, DecidableEq, Inhabited

/-- The number of mantissa bits stored in a binary64 word. -/
def fractionBits : Nat := 52

/-- Decode a bit pattern: sign bit 63, an 11-bit biased exponent, a 52-bit fraction. -/
def Binary.ofBits (bits : Nat) : Binary :=
  let neg := bits / Nat.pow 2 63 % 2 == 1
  let e : Nat := bits / Nat.pow 2 fractionBits % Nat.pow 2 11
  let f : Nat := bits % Nat.pow 2 fractionBits
  if e = 2047 then
    if f = 0 then .inf neg else .nan
  else if e = 0 then .finite neg f (-1074)
  else .finite neg (f + Nat.pow 2 fractionBits) ((e : Int) - 1075)

/-- Decode a `Float` through its bit pattern. -/
def Binary.ofFloat (x : Float) : Binary :=
  Binary.ofBits x.toBits.toNat

/-- Whether the sign bit of a value is set (also for `-0.0`). -/
def Binary.isNeg : Binary → Bool
  | .nan => false
  | .inf neg => neg
  | .finite neg _ _ => neg

/-- `2 ^ z` scaled into `Nat` when `z` is known to be non-negative; negative `z` gives `1`. -/
def pow2 (z : Int) : Nat := Nat.pow 2 z.toNat

/-- `10 ^ z` for non-negative `z`; negative `z` gives `1`. -/
def pow10 (z : Int) : Nat := Nat.pow 10 z.toNat

/-- Round the quotient `num / den` to the nearest natural number, a tie going to the even one. -/
def roundHalfEven (num den : Nat) : Nat :=
  let r := num / den
  let rem := num % den
  if 2 * rem > den then r + 1
  else if 2 * rem = den then (if r % 2 = 1 then r + 1 else r)
  else r

theorem roundHalfEven_exact (a d : Nat) (hd : 0 < d) : roundHalfEven (a * d) d = a := by
  have h1 : a * d / d = a := Nat.mul_div_cancel a hd
  have h2 : a * d % d = 0 := Nat.mul_mod_left a d
  simp [roundHalfEven, h1, h2]
  omega

end Fanout.Decimal
