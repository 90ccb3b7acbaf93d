import Mathlib
import Fanout.Decimal.Binary

/-!
# Float guards read on the decoded value

`Float`'s predicates and comparisons are those of IEEE binary64, computed on the unpacked form
of the bit pattern (`Float.Model.UnpackedFloat`): NaN, a signed infinity, a signed zero, or a
sign with a positive mantissa and an exponent. `Decimal.Binary.ofFloat`, which every rendering
and every duration starts from, is that same form with zero written as a mantissa of zero
(`toModel_unpack`).

So a guard on a float says something about its decoded sign, mantissa and exponent. A value
that is not NaN and not below a positive bound `m₀ · 2^q₀` is `+∞` or positive with a larger
exponent, or the same exponent and no smaller mantissa (`atLeast_of_not_lt`); one not above such
a bound is the mirror image (`atMost_of_not_lt`); and so on for zero. With the shape of a decoded
finite value (at most 53 bits of mantissa, exactly 53 above the least exponent), that bounds the
value itself.
-/

namespace Fanout.Decimal

open Float.Model (UnpackedFloat)
open Float.Model.UnpackedFloat (Sign unpackMantissa unpackExponent unpackSign)

/-- The sign IEEE operations read off a sign bit. -/
def signOf (minus : Bool) : Sign := if minus then .negative else .positive

@[simp] theorem signOf_false : signOf false = .positive := rfl

@[simp] theorem signOf_true : signOf true = .negative := rfl

/-- A decoded value in the unpacked form IEEE operations work on; a zero mantissa is a zero. -/
def Binary.unpacked : Binary → UnpackedFloat
  | .nan => .notANumber
  | .inf minus => .infinity (signOf minus)
  | .finite minus m q =>
    if h : m = 0 then .zero (signOf minus) else .finite (signOf minus) m q (Nat.pos_of_ne_zero h)

@[simp] theorem unpacked_finite_zero (minus : Bool) (q : Int) :
    (Binary.finite minus 0 q).unpacked = .zero (signOf minus) := rfl

theorem unpacked_finite_pos {minus : Bool} {m : Nat} (q : Int) (h : 0 < m) :
    (Binary.finite minus m q).unpacked = .finite (signOf minus) m q h := by
  simp [Binary.unpacked, Nat.pos_iff_ne_zero.1 h]

/-! ## The decoding is the unpacked form -/

theorem toNat_unpackMantissa (b : BitVec 64) :
    (@unpackMantissa .binary64 b).toNat = b.toNat % 2 ^ 52 := by
  simp [unpackMantissa]

theorem toNat_unpackExponent (b : BitVec 64) :
    (@unpackExponent .binary64 b).toNat = b.toNat / 2 ^ 52 % 2 ^ 11 := by
  simp [unpackExponent, Nat.shiftRight_eq_div_pow]

theorem ofBitVec_unpackSign (b : BitVec 64) :
    Sign.ofBitVec (@unpackSign .binary64 b) = signOf (b.toNat / 2 ^ 63 % 2 == 1) := by
  have h : (@unpackSign .binary64 b).toNat = b.toNat / 2 ^ 63 % 2 := by
    simp [unpackSign, Nat.shiftRight_eq_div_pow]
  have hlt := (@unpackSign .binary64 b).isLt
  unfold Sign.ofBitVec signOf
  -- the sign bit, kept whole so that no simp set opens the power
  generalize b.toNat / 2 ^ 63 % 2 = t at h ⊢
  by_cases h0 : t = 0
  · have hz : @unpackSign .binary64 b = 0#1 := BitVec.eq_of_toNat_eq (by simp [h, h0])
    simp [hz, h0]
  · have h1 : t = 1 := by omega
    have hz : @unpackSign .binary64 b ≠ 0#1 := fun hc => by
      simpa [h, h1] using congrArg BitVec.toNat hc
    simp [hz, h1]

/-- A normal mantissa is its stored bits below the implicit leading one. -/
theorem toNat_one_append (m : BitVec 52) : (1#1 ++ m).toNat = m.toNat + 2 ^ 52 := by
  rw [BitVec.toNat_append]
  simp only [BitVec.toNat_ofNat, Nat.shiftLeft_eq]
  rw [Nat.or_comm, Nat.or_two_pow_eq_add_of_lt m.isLt]

theorem unpack_eq_unpacked (b : BitVec 64) :
    UnpackedFloat.unpack .binary64 b = (Binary.ofBits b.toNat).unpacked := by
  have hm := toNat_unpackMantissa b
  have he := toNat_unpackExponent b
  have hs := ofBitVec_unpackSign b
  have hn := toNat_one_append (@unpackMantissa .binary64 b)
  unfold UnpackedFloat.unpack Binary.ofBits
  simp only [hs, ← BitVec.toNat_inj, he, hm, hn, show (-1#11).toNat = 2047 from rfl,
    show (0#11).toNat = 0 from rfl, show (0#52).toNat = 0 from rfl,
    show Nat.pow 2 fractionBits = 2 ^ 52 from rfl, show Nat.pow 2 11 = 2 ^ 11 from rfl,
    show Nat.pow 2 63 = 2 ^ 63 from rfl, show Float.Model.Format.binary64.exponentBias = 1023 from rfl]
  -- the three cases of the exponent field: all ones, zero (subnormal), and normal
  generalize b.toNat / 2 ^ 52 % 2 ^ 11 = e
  -- the powers as numerals, the form every simp set leaves them in
  simp only [Nat.reducePow]
  by_cases h1 : e = 2047
  · by_cases h2 : b.toNat % 4503599627370496 = 0 <;> simp [h1, h2, Binary.unpacked]
  · by_cases h3 : e = 0
    · by_cases h2 : b.toNat % 4503599627370496 = 0 <;> simp [h3, h2, Binary.unpacked]
    · simp [h1, h3, Binary.unpacked]

/-- What IEEE operations see of a float is its decoding. -/
theorem toModel_unpack (x : Float) : x.toModel.unpack = (Binary.ofFloat x).unpacked :=
  unpack_eq_unpacked x.toModel.toBits.toBitVec

/-! ## Predicates and comparisons on the decoding -/

theorem lt_iff_compare (x y : Float) :
    x < y ↔ (Binary.ofFloat x).unpacked.compare (Binary.ofFloat y).unpacked = some .lt := by
  show x.lt y = true ↔ _
  simp [Float.lt, LT.lt, Float.Model.lt, UnpackedFloat.lt, toModel_unpack]

theorem le_iff_compare (x y : Float) :
    x ≤ y ↔ ((Binary.ofFloat x).unpacked.compare (Binary.ofFloat y).unpacked).any (·.isLE) := by
  show x.le y = true ↔ _
  simp [Float.le, LE.le, Float.Model.le, UnpackedFloat.le, toModel_unpack]

theorem isNaN_iff (x : Float) : x.isNaN = true ↔ Binary.ofFloat x = .nan := by
  simp only [Float.isNaN, Float.Model.isNaN, toModel_unpack]
  rcases h : Binary.ofFloat x with _ | minus | ⟨minus, _ | m, q⟩ <;>
    simp [Binary.unpacked, UnpackedFloat.isNaN]

theorem ofFloat_ne_nan {x : Float} (hnan : x.isNaN = false) : Binary.ofFloat x ≠ .nan :=
  fun h => Bool.false_ne_true (hnan.symm.trans ((isNaN_iff x).2 h))

theorem isFinite_iff (x : Float) :
    x.isFinite = true ↔ ∃ minus m q, Binary.ofFloat x = .finite minus m q := by
  simp only [Float.isFinite, Float.Model.isFinite, toModel_unpack]
  rcases h : Binary.ofFloat x with _ | minus | ⟨minus, _ | m, q⟩ <;>
    simp [Binary.unpacked, UnpackedFloat.isFinite]

/-- A finite float is not NaN. -/
theorem isNaN_eq_false_of_isFinite {x : Float} (h : x.isFinite = true) : x.isNaN = false := by
  cases hn : x.isNaN
  · rfl
  · obtain ⟨minus, m, q, hf⟩ := (isFinite_iff x).1 h
    rw [(isNaN_iff x).1 hn] at hf
    cases hf

/-! ## The shape of a decoded finite value -/

/-- A decoded finite value has at most 53 bits of mantissa, exactly 53 unless its exponent is
the least one, and an exponent from `-1074` to `971`. -/
theorem ofBits_finite_shape {n m : Nat} {minus : Bool} {q : Int}
    (h : Binary.ofBits n = .finite minus m q) :
    m < 2 ^ 53 ∧ -1074 ≤ q ∧ q ≤ 971 ∧ (q = -1074 ∨ 2 ^ 52 ≤ m) := by
  have hf : n % 2 ^ 52 < 2 ^ 52 := Nat.mod_lt _ (by decide)
  have he : n / 2 ^ 52 % 2 ^ 11 < 2 ^ 11 := Nat.mod_lt _ (by decide)
  unfold Binary.ofBits at h
  simp only [show Nat.pow 2 fractionBits = 2 ^ 52 from rfl,
    show Nat.pow 2 11 = 2 ^ 11 from rfl] at h
  split at h
  · split at h <;> cases h
  · split at h
    · cases h
      omega
    · cases h
      omega

theorem ofFloat_finite_shape {x : Float} {m : Nat} {minus : Bool} {q : Int}
    (h : Binary.ofFloat x = .finite minus m q) :
    m < 2 ^ 53 ∧ -1074 ≤ q ∧ q ≤ 971 ∧ (q = -1074 ∨ 2 ^ 52 ≤ m) :=
  ofBits_finite_shape h

/-! ## Guards against a bound -/

/-- At least the positive value `m₀ · 2^q₀`, as IEEE orders values: `+∞`, or positive with a
larger exponent, or the same exponent and a mantissa no smaller. -/
def Binary.AtLeast (m₀ : Nat) (q₀ : Int) : Binary → Prop
  | .nan => False
  | .inf minus => minus = false
  | .finite minus m q => minus = false ∧ 0 < m ∧ (q₀ < q ∨ q = q₀ ∧ m₀ ≤ m)

/-- At most the positive value `m₀ · 2^q₀`: `-∞`, a negative value, a zero, or positive with a
smaller exponent, or the same exponent and a mantissa no larger. -/
def Binary.AtMost (m₀ : Nat) (q₀ : Int) : Binary → Prop
  | .nan => False
  | .inf minus => minus = true
  | .finite minus m q => minus = true ∨ m = 0 ∨ q < q₀ ∨ q = q₀ ∧ m ≤ m₀

/-- Not negative: `+∞`, a zero of either sign, or a positive value. -/
def Binary.NonNeg : Binary → Prop
  | .nan => False
  | .inf minus => minus = false
  | .finite minus m _ => minus = false ∨ m = 0

variable {x c : Float} {m₀ : Nat} {q₀ : Int}

theorem atLeast_of_not_lt (hc : Binary.ofFloat c = .finite false m₀ q₀) (h₀ : 0 < m₀)
    (hnan : x.isNaN = false) (hlt : ¬ x < c) : (Binary.ofFloat x).AtLeast m₀ q₀ := by
  rw [lt_iff_compare, hc, unpacked_finite_pos q₀ h₀] at hlt
  rcases h : Binary.ofFloat x with _ | minus | ⟨minus, _ | m, q⟩
  · exact ofFloat_ne_nan hnan h
  · cases minus <;> simp_all [Binary.AtLeast, Binary.unpacked, UnpackedFloat.compare, signOf]
  · cases minus <;> simp_all [Binary.unpacked, UnpackedFloat.compare, signOf]
  · rw [h, unpacked_finite_pos q (Nat.succ_pos m)] at hlt
    cases minus
    · -- a positive value: its exponent and mantissa are no smaller
      simp only [signOf_false, UnpackedFloat.compare, Option.some.injEq, Ordering.then_eq_lt,
        Int.compare_eq_lt, Int.compare_eq_eq, Nat.compare_eq_lt, not_or, not_and] at hlt
      simp only [Binary.AtLeast, Nat.succ_pos, true_and]
      omega
    · simp [signOf, UnpackedFloat.compare] at hlt

theorem atMost_of_not_lt (hc : Binary.ofFloat c = .finite false m₀ q₀) (h₀ : 0 < m₀)
    (hnan : x.isNaN = false) (hlt : ¬ c < x) : (Binary.ofFloat x).AtMost m₀ q₀ := by
  rw [lt_iff_compare, hc, unpacked_finite_pos q₀ h₀] at hlt
  rcases h : Binary.ofFloat x with _ | minus | ⟨minus, _ | m, q⟩
  · exact ofFloat_ne_nan hnan h
  · cases minus <;> simp_all [Binary.AtMost, Binary.unpacked, UnpackedFloat.compare]
  · simp [Binary.AtMost]
  · rw [h, unpacked_finite_pos q (Nat.succ_pos m)] at hlt
    cases minus
    · -- a positive value: its exponent and mantissa are no larger
      simp only [signOf_false, UnpackedFloat.compare, Option.some.injEq, Ordering.then_eq_lt,
        Int.compare_eq_lt, Int.compare_eq_eq, Nat.compare_eq_lt, not_or, not_and] at hlt
      simp only [Binary.AtMost, Bool.false_eq_true, false_or, Nat.succ_ne_zero]
      omega
    · simp [Binary.AtMost]

theorem nonNeg_of_not_lt_zero (hc : Binary.ofFloat c = .finite false 0 q₀)
    (hnan : x.isNaN = false) (hlt : ¬ x < c) : (Binary.ofFloat x).NonNeg := by
  rw [lt_iff_compare, hc, unpacked_finite_zero] at hlt
  rcases h : Binary.ofFloat x with _ | minus | ⟨minus, _ | m, q⟩
  · exact ofFloat_ne_nan hnan h
  · cases minus <;> simp_all [Binary.NonNeg, Binary.unpacked, UnpackedFloat.compare]
  · simp [Binary.NonNeg]
  · rw [h, unpacked_finite_pos q (Nat.succ_pos m)] at hlt
    cases minus <;> simp_all [Binary.NonNeg, UnpackedFloat.compare]

theorem positive_of_not_le_zero (hc : Binary.ofFloat c = .finite false 0 q₀)
    (hfin : x.isFinite = true) (hle : ¬ x ≤ c) :
    ∃ m q, Binary.ofFloat x = .finite false m q ∧ 0 < m := by
  rw [le_iff_compare, hc, unpacked_finite_zero] at hle
  obtain ⟨minus, m, q, h⟩ := (isFinite_iff x).1 hfin
  rw [h] at hle
  rcases m with _ | m
  · simp [UnpackedFloat.compare] at hle
  · rw [unpacked_finite_pos q (Nat.succ_pos m)] at hle
    cases minus
    · exact ⟨m + 1, q, h, Nat.succ_pos m⟩
    · simp [UnpackedFloat.compare] at hle

/-- A value at most a positive bound compares as no larger than it. -/
theorem le_of_atMost (hc : Binary.ofFloat c = .finite false m₀ q₀) (h₀ : 0 < m₀)
    (hx : (Binary.ofFloat x).AtMost m₀ q₀) : x ≤ c := by
  rw [le_iff_compare, hc, unpacked_finite_pos q₀ h₀]
  rcases h : Binary.ofFloat x with _ | minus | ⟨minus, _ | m, q⟩ <;> rw [h] at hx
  · exact hx.elim
  · simp only [Binary.AtMost] at hx
    simp [hx, Binary.unpacked, UnpackedFloat.compare]
  · simp [UnpackedFloat.compare]
  · rw [unpacked_finite_pos q (Nat.succ_pos m)]
    cases minus
    · simp only [Binary.AtMost, Bool.false_eq_true, false_or, Nat.succ_ne_zero] at hx
      -- the exponents decide, or on a tie the mantissas
      rcases hx with hq | ⟨rfl, hm⟩
      · simp [UnpackedFloat.compare, Int.compare_eq_lt.2 hq]
      · simp [UnpackedFloat.compare, Nat.isLE_compare, hm]
    · simp [UnpackedFloat.compare]

end Fanout.Decimal
