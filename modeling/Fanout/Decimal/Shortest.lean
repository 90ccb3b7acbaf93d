import Fanout.Decimal.Binary

/-!
# Shortest round-trip digits

For a finite positive binary64 value `m · 2^q`, the decimal `d · 10^e` with the fewest significant
digits that reads back as the same value, the nearest such decimal when several have that many
digits, and the even one of an exact tie.

The values that read back as `m · 2^q` form an interval around it: half the distance to each
neighbouring float on either side, the ends included exactly when `m` is even. For `n = 1, 2, …`
the two neighbours of the value on the grid `10^(k - n + 1)` (where `10^k ≤ v < 10^(k+1)`) are
tested against that interval in exact `Nat` arithmetic; the first grid with a hit wins.
-/

namespace Fanout.Decimal

/-- A decimal `digits · 10^exp`. -/
structure Digits where
  digits : Nat
  exp : Int
  deriving Repr, DecidableEq, Inhabited

/-- The number of decimal digits of `n` (one for `0`). -/
def decimalLength (n : Nat) : Nat :=
  if n < 10 then 1 else decimalLength (n / 10) + 1
termination_by n
decreasing_by omega

/-- Drop trailing zeros of the digit string, raising the exponent. -/
def Digits.normalize (d : Digits) : Digits :=
  if d.digits = 0 then d
  else if d.digits % 10 = 0 then Digits.normalize ⟨d.digits / 10, d.exp + 1⟩
  else d
termination_by d.digits
decreasing_by
  rename_i h1 _
  omega

/-- Compare `a · 10^ea` with `b · 2^eb` exactly. -/
def cmpScaled (a : Nat) (ea : Int) (b : Nat) (eb : Int) : Ordering :=
  let lhs := a * pow10 ea * pow2 (-eb)
  let rhs := b * pow2 eb * pow10 (-ea)
  compare lhs rhs

/-- The decimal exponent `k` with `10^k ≤ m · 2^q < 10^(k+1)`, for `m > 0`. -/
def decimalExponent (m : Nat) (q : Int) : Int :=
  -- an estimate from the bit length, then at most a few exact corrections
  let bits : Int := (Nat.log2 m : Int) + q
  let est : Int := (bits * 30103) / 100000
  let rec fix (k : Int) : Nat → Int
    | 0 => k
    | fuel + 1 =>
      if cmpScaled 1 k m q == .gt then fix (k - 1) fuel
      else if cmpScaled 1 (k + 1) m q != .gt then fix (k + 1) fuel
      else k
  fix est 8

/-- Whether the rounding interval of `m · 2^q` is narrower below the value than above: the
mantissa is a power of two and a smaller exponent exists. -/
def narrowBelow (m : Nat) (q : Int) : Bool :=
  m == Nat.pow 2 fractionBits && q > -1074

/-- The nearest grid point of the rounding interval of `m · 2^q` on the grid `10^e`, if any.
Everything is multiplied by `2^a · 10^b` so that all quantities are natural numbers. -/
def gridHit (m : Nat) (q : Int) (e : Int) : Option Nat :=
  let a : Int := max (2 - q) 0
  let b : Int := max (-e) 0
  let v := m * pow2 (q + a) * pow10 b
  let g := pow10 (e + b) * pow2 a
  let gapHi := pow2 (q - 1 + a) * pow10 b
  let gapLo := if narrowBelow m q then pow2 (q - 2 + a) * pow10 b else gapHi
  let inclusive := m % 2 == 0
  let within (dist gap : Nat) : Bool := if inclusive then dist ≤ gap else dist < gap
  let lo := v / g
  let r := v % g
  if r = 0 then some lo
  else
    let okLo := within r gapLo
    let okHi := within (g - r) gapHi
    if okLo && okHi then
      if r < g - r then some lo
      else if g - r < r then some (lo + 1)
      else if lo % 2 = 0 then some lo else some (lo + 1)
    else if okLo then some lo
    else if okHi then some (lo + 1)
    else none

/-- The shortest digits of the positive value `m · 2^q`, searched over `1 ≤ n ≤ 17` significant
digits; seventeen always suffice for binary64. -/
def shortest (m : Nat) (q : Int) : Digits :=
  if m = 0 then ⟨0, 0⟩
  else
    let k := decimalExponent m q
    let rec go : Nat → Nat → Digits
      | 0, _ => ⟨m, 0⟩
      | fuel + 1, n =>
        let e := k - n + 1
        match gridHit m q e with
        | some d => Digits.normalize ⟨d, e⟩
        | none => go fuel (n + 1)
    go 17 1

end Fanout.Decimal
