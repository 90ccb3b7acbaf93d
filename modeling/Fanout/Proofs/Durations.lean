import Fanout.Proofs.FloatOrder
import Fanout.Proofs.Ceilings

/-!
# A valid configuration makes every duration

The engine turns four settings into durations: the scheduler's wait and the start delay
between dispatches by a conversion that refuses negative values, NaN, the infinities and values
of `2^64` seconds or more; the termination grace by the same conversion after a cap at an hour,
falling back to zero; and the timeout from whole seconds. Validation guards each float with a
rule of its own (`isNaN`, `isFinite`, strict and non-strict comparisons).

This module shows that the guards cover the conversions over every float value, NaN, the
infinities, `-0.0` and the subnormals included (`validated_durations_convert`): on a valid
configuration the wait converts and is at least ten milliseconds, so no timer built from it has
a zero period; the start delay converts; the grace converts as it is, without cap or fallback;
and the timeout is at most thirty days, the bound the supervisor falls back to.

Each guard is read on the decoded value (`Proofs.FloatOrder`): the bounds `0.01`, `10`, `60`
and `3600` decode to fixed mantissas and exponents, and a decoded value between two of them has
a negative exponent and at most 53 bits, which the conversion accepts.
-/

namespace Fanout

open Decimal

/-! ## The bounds of the rules, decoded -/

theorem ofFloat_hundredth : Binary.ofFloat 0.01 = .finite false 5764607523034235 (-59) := by
  decide

theorem ofFloat_ten : Binary.ofFloat 10.0 = .finite false 5629499534213120 (-49) := by decide

theorem ofFloat_sixty : Binary.ofFloat 60.0 = .finite false 8444249301319680 (-47) := by decide

theorem ofFloat_graceCeiling :
    Binary.ofFloat graceCeiling = .finite false 7916483719987200 (-41) := by decide

theorem ofFloat_zero : Binary.ofFloat 0.0 = .finite false 0 (-1074) := by decide

/-! ## The conversion -/

/-- Rounding to the nearest never gives less than the quotient rounded down. -/
theorem div_le_roundHalfEven (n d : Nat) : n / d ≤ roundHalfEven n d := by
  unfold roundHalfEven
  dsimp only
  split
  · omega
  · split
    · split <;> omega
    · omega

/-- A value that is not below zero, has a negative exponent and fewer than 64 bits of mantissa
converts to its exact number of seconds rounded to the nearest nanosecond. -/
theorem ofBinary_of_exponent_neg {minus : Bool} {m : Nat} {q : Int}
    (hs : minus = false ∨ m = 0) (hq : q < 0) (hm : m < 2 ^ 64) :
    Duration.ofBinary (.finite minus m q) =
      .ok ⟨roundHalfEven (m * Duration.perSecond) (pow2 (-q))⟩ := by
  have hsign : (minus && m != 0) = false := by
    rcases hs with rfl | rfl <;> simp
  have hpow : 1 ≤ pow2 (-q) := Nat.one_le_two_pow
  have hfits : ¬ m ≥ Nat.pow 2 64 * pow2 (-q) := by
    have : Nat.pow 2 64 ≤ Nat.pow 2 64 * pow2 (-q) := Nat.le_mul_of_pos_right _ hpow
    change ¬ m ≥ 2 ^ 64 * pow2 (-q)
    omega
  simp only [Duration.ofBinary, hsign, Bool.false_eq_true, if_false, Int.not_le.2 hq, hfits]

/-- A positive value no less than `0.01`, with a negative exponent, makes at least ten
milliseconds. -/
theorem tenMillis_le_round {m : Nat} {q : Int} (hq : q < 0)
    (hat : -59 < q ∨ q = -59 ∧ 5764607523034235 ≤ m) (hsub : q = -1074 ∨ 2 ^ 52 ≤ m) :
    (Duration.ofMillis 10).nanos ≤ roundHalfEven (m * Duration.perSecond) (pow2 (-q)) := by
  refine Nat.le_trans ?_ (div_le_roundHalfEven _ _)
  apply (Nat.le_div_iff_mul_le (Nat.two_pow_pos _)).2
  simp only [Duration.ofMillis, Duration.perMilli, Duration.perSecond]
  rcases hat with hat | ⟨rfl, hm⟩
  · -- above the least exponent of the band the mantissa has all 53 bits
    have hk : (-q).toNat ≤ 58 := by omega
    have hpow : 2 ^ (-q).toNat ≤ 2 ^ 58 := Nat.pow_le_pow_right (by decide) hk
    have h52 : 2 ^ 52 ≤ m := by omega
    have h58 : (2 : Nat) ^ 58 = 2 ^ 52 * 64 := by decide
    rw [h58] at hpow
    calc 10 * 1000000 * 2 ^ (-q).toNat ≤ 10 * 1000000 * (2 ^ 52 * 64) :=
          Nat.mul_le_mul_left _ hpow
      _ ≤ m * 1000000000 := by omega
  · have h59 : (2 : Nat) ^ (-(-59 : Int)).toNat = 576460752303423488 := by decide
    rw [h59]
    omega

variable {l : Limits} {e : Execution}

/-- The scheduler's wait converts, to at least ten milliseconds, once it passes its two rules. -/
theorem waitTime_ok (hlo : (l.waitTimeSecs.isNaN || decide (l.waitTimeSecs < 0.01)) = false)
    (hhi : ¬ l.waitTimeSecs > 10.0) :
    ∃ d, l.waitTime = .ok d ∧ (Duration.ofMillis 10).nanos ≤ d.nanos := by
  simp only [Bool.or_eq_false_iff, decide_eq_false_iff_not] at hlo
  have hat := atLeast_of_not_lt ofFloat_hundredth (by decide) hlo.1 hlo.2
  have hbt := atMost_of_not_lt ofFloat_ten (by decide) hlo.1 hhi
  rcases hx : Binary.ofFloat l.waitTimeSecs with _ | minus | ⟨minus, m, q⟩ <;> rw [hx] at hat hbt
  · exact hat.elim
  · exact absurd (hat.symm.trans hbt) (by decide)
  · obtain ⟨rfl, hm0, hq⟩ := hat
    obtain ⟨hmb, -, -, hsub⟩ := ofFloat_finite_shape hx
    -- between the two bounds the exponent runs from -59 to -49
    have hneg : q < 0 := by
      simp only [Binary.AtMost, Bool.false_eq_true, false_or] at hbt
      omega
    have hw : l.waitTime = Duration.ofBinary (.finite false m q) := by
      simp only [Limits.waitTime, Duration.ofSecondsFloat, hx]
    exact ⟨_, hw.trans (ofBinary_of_exponent_neg (.inl rfl) hneg (by omega)),
      tenMillis_le_round hneg hq hsub⟩

/-- The start delay converts once it passes its two rules; `-0.0` passes and makes zero. -/
theorem taskStartDelay_ok
    (hlo : (l.taskStartDelaySecs.isNaN || decide (l.taskStartDelaySecs < 0.0)) = false)
    (hhi : ¬ l.taskStartDelaySecs > 60.0) :
    ∃ d, l.taskStartDelay = .ok d := by
  simp only [Bool.or_eq_false_iff, decide_eq_false_iff_not] at hlo
  have hnn := nonNeg_of_not_lt_zero ofFloat_zero hlo.1 hlo.2
  have hbt := atMost_of_not_lt ofFloat_sixty (by decide) hlo.1 hhi
  rcases hx : Binary.ofFloat l.taskStartDelaySecs with _ | minus | ⟨minus, m, q⟩ <;>
    rw [hx] at hnn hbt
  · exact hnn.elim
  · exact absurd (hnn.symm.trans hbt) (by decide)
  · obtain ⟨hmb, -, -, hsub⟩ := ofFloat_finite_shape hx
    -- a zero has the least exponent; anything else is positive and at most 60
    have hneg : q < 0 := by
      simp only [Binary.NonNeg, Binary.AtMost] at hnn hbt
      rcases hnn with rfl | rfl
      · simp only [Bool.false_eq_true, false_or] at hbt
        omega
      · omega
    have hd : l.taskStartDelay = Duration.ofBinary (.finite minus m q) := by
      simp only [Limits.taskStartDelay, Duration.ofSecondsFloat, hx]
    exact ⟨_, hd.trans (ofBinary_of_exponent_neg hnn hneg (by omega))⟩

/-- The termination grace converts as it is, with neither the cap nor the fallback to zero
taking effect, once it passes its rule. -/
theorem terminationGrace_ok
    (hlo : (!e.terminationGraceSecs.isFinite || decide (e.terminationGraceSecs ≤ 0.0)) = false)
    (hhi : ¬ e.terminationGraceSecs > graceCeiling) :
    Duration.ofSecondsFloat e.terminationGraceSecs = .ok e.terminationGrace := by
  simp only [Bool.or_eq_false_iff, Bool.not_eq_false', decide_eq_false_iff_not] at hlo
  have hnan := isNaN_eq_false_of_isFinite hlo.1
  obtain ⟨m, q, hx, hm⟩ := positive_of_not_le_zero ofFloat_zero hlo.1 hlo.2
  have hbt := atMost_of_not_lt ofFloat_graceCeiling (by decide) hnan hhi
  have hle : e.terminationGraceSecs ≤ graceCeiling :=
    le_of_atMost ofFloat_graceCeiling (by decide) hbt
  rw [hx] at hbt
  obtain ⟨hmb, -, -, -⟩ := ofFloat_finite_shape hx
  have hneg : q < 0 := by
    simp only [Binary.AtMost, Bool.false_eq_true, false_or] at hbt
    omega
  have hok : Duration.ofSecondsFloat e.terminationGraceSecs =
      .ok ⟨roundHalfEven (m * Duration.perSecond) (pow2 (-q))⟩ := by
    unfold Duration.ofSecondsFloat
    rw [hx]
    exact ofBinary_of_exponent_neg (.inl rfl) hneg (by omega)
  simp only [Execution.terminationGrace, hle, if_true, hok]

/-- Over every float value of its settings: a valid configuration's wait converts to at least
ten milliseconds, its start delay converts, its termination grace converts as it is (no cap, no
fallback), and its timeout is at most thirty days. -/
theorem validated_durations_convert (c : Config) (hv : c.validate = .ok ()) :
    (∃ d, c.limits.waitTime = .ok d ∧ (Duration.ofMillis 10).nanos ≤ d.nanos) ∧
    (∃ d, c.limits.taskStartDelay = .ok d) ∧
    Duration.ofSecondsFloat c.execution.terminationGraceSecs = .ok c.execution.terminationGrace ∧
    c.limits.timeout.nanos ≤ (Duration.ofSeconds timeoutCeiling).nanos := by
  have hp := (Config.validate_eq_ok_iff c).1 hv
  simp only [Config.problems, List.append_eq_nil_iff] at hp
  obtain ⟨⟨⟨hl, -⟩, he⟩, -⟩ := hp
  obtain ⟨-, -, htc, hcc, hwl, hwh, hdl, hdh⟩ := (Limits.problems_eq_nil_iff _).1 hl
  -- the grace rule is the first of the execution rules
  have hg : (!c.execution.terminationGraceSecs.isFinite ||
        decide (c.execution.terminationGraceSecs ≤ 0.0)) = false ∧
      ¬ c.execution.terminationGraceSecs > graceCeiling := by
    simp only [Execution.problems, List.append_eq_nil_iff] at he
    obtain ⟨⟨⟨hg, -⟩, -⟩, -⟩ := he
    split at hg
    · cases hg
    · next hlo =>
      split at hg
      · cases hg
      · next hhi => exact ⟨Bool.not_eq_true _ ▸ hlo, hhi⟩
  refine ⟨waitTime_ok hwl hwh, taskStartDelay_ok hdl hdh, terminationGrace_ok hg.1 hg.2, ?_⟩
  simp only [Limits.timeout, Duration.ofSeconds]
  exact Nat.mul_le_mul_right _ (Nat.le_trans htc hcc)

/-- The edge values the rules admit: a wait of exactly `0.01`, a start delay of `-0.0` and the
least subnormal grace. -/
theorem validated_durations_convert_edges :
    let c : Config :=
      { limits := { waitTimeSecs := 0.01, taskStartDelaySecs := -0.0 }
        execution := { terminationGraceSecs := Float.ofBits 1 } }
    c.validate = .ok () ∧
    (∃ d, c.limits.waitTime = .ok d ∧ (Duration.ofMillis 10).nanos ≤ d.nanos) ∧
    (∃ d, c.limits.taskStartDelay = .ok d) ∧
    Duration.ofSecondsFloat c.execution.terminationGraceSecs = .ok c.execution.terminationGrace ∧
    c.limits.timeout.nanos ≤ (Duration.ofSeconds timeoutCeiling).nanos :=
  have hv := (Config.validate_eq_ok_iff _).2 (by decide)
  ⟨hv, validated_durations_convert _ hv⟩

end Fanout
