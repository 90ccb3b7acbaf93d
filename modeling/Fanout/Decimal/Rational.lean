import Fanout.Decimal.Binary

/-!
# Rationals to binary64

`ofRatio num den` is the binary64 value nearest to `num / den`, a tie going to the even mantissa,
with gradual underflow below `2^-1022` and infinity above the largest finite value. It is built
from its bit pattern, so no step of it depends on how a platform rounds.
-/

namespace Fanout.Decimal

/-- The exponent `e` with `2^52 ≤ num / (den · 2^e) < 2^53`, for positive `num` and `den`. -/
def normalExponent (num den : Nat) : Int :=
  -- the bit lengths give the exponent up to one; one comparison settles it
  let e0 : Int := (Nat.log2 num : Int) - (Nat.log2 den : Int) - 52
  let scaledNum := num * pow2 (-e0)
  let scaledDen := den * pow2 e0
  if scaledNum < scaledDen * Nat.pow 2 52 then e0 - 1 else e0

/-- The bit pattern of the binary64 value nearest to `num / den` (both positive). -/
def ratioBits (num den : Nat) : Nat :=
  let e := max (normalExponent num den) (-1074)
  let m := roundHalfEven (num * pow2 (-e)) (den * pow2 e)
  -- rounding may carry into the next binade
  let (m, e) := if m = Nat.pow 2 53 then (Nat.pow 2 52, e + 1) else (m, e)
  if e + 52 > 1023 then 2047 * Nat.pow 2 52
  else if m < Nat.pow 2 52 then m
  else ((e + 1075).toNat) * Nat.pow 2 52 + (m - Nat.pow 2 52)

/-- The binary64 value nearest to `num / den`; zero when `num = 0`. -/
def ofRatio (num den : Nat) : Float :=
  if num = 0 ∨ den = 0 then 0.0 else Float.ofBits (ratioBits num den).toUInt64

/-- The binary64 value nearest to `10^k`. -/
def powerOfTen (k : Nat) : Float := ofRatio (Nat.pow 10 k) 1

end Fanout.Decimal
