import Fanout.Config.Basic

/-!
# Limits lowered to their ceilings

`Config.clamp` lowers the worker count, the timeout and the output size to their ceilings and
leaves every other setting alone. Validation checks the timeout against its ceiling, so a valid
configuration keeps its timeout; it checks neither the worker count nor the output size against
theirs, and it puts no lower bound on any ceiling. A valid configuration therefore stays valid
after clamping exactly when its worker ceiling is positive: a zero ceiling lowers the worker
count to zero, and validation then refuses it with the one problem `max_workers must be
positive` (`clamp_keeps_validity`).
-/

namespace Fanout

namespace Limits

/-- The rules of the limits, one per field they read: a configuration passes them exactly when
`problems` is empty. -/
theorem problems_eq_nil_iff (l : Limits) :
    l.problems = [] ↔
      l.maxWorkers ≠ 0 ∧ l.timeoutSecs ≠ 0 ∧ l.timeoutSecs ≤ l.maxAllowedTimeout ∧
      l.maxAllowedTimeout ≤ timeoutCeiling ∧
      (l.waitTimeSecs.isNaN || decide (l.waitTimeSecs < 0.01)) = false ∧
      ¬ l.waitTimeSecs > 10.0 ∧
      (l.taskStartDelaySecs.isNaN || decide (l.taskStartDelaySecs < 0.0)) = false ∧
      ¬ l.taskStartDelaySecs > 60.0 := by
  simp only [problems, List.append_eq_nil_iff, ite_eq_right_iff, reduceCtorEq, imp_false,
    Bool.not_eq_true, Nat.not_lt, gt_iff_lt, ne_eq, and_assoc]

/-- Clamping lowers each of the three values to the smaller of it and its ceiling. -/
theorem clamp_fst (l : Limits) :
    l.clamp.1 = { l with maxWorkers := min l.maxWorkers l.maxAllowedWorkers,
                         timeoutSecs := min l.timeoutSecs l.maxAllowedTimeout,
                         maxOutputCapture := min l.maxOutputCapture l.maxAllowedOutput } := by
  obtain ⟨mw, ts, wt, sd, oc, aw, at_, ao⟩ := l
  unfold clamp
  -- each of the three steps lowers its value or leaves the record as it is
  by_cases h1 : mw > aw <;> by_cases h2 : ts > at_ <;> by_cases h3 : oc > ao <;>
    simp only [h1, h2, h3, if_true, if_false, Limits.mk.injEq, and_true, true_and] <;> omega

end Limits

namespace Config

/-- A configuration is accepted exactly when it has no problem. -/
theorem validate_eq_ok_iff (c : Config) : c.validate = .ok () ↔ c.problems = [] := by
  unfold validate
  split <;> simp_all

theorem clamp_fst (c : Config) : c.clamp.1 = { c with limits := c.limits.clamp.1 } := rfl

end Config

/-- Clamping lowers the worker count, the timeout and the output size each to the smaller of it
and its ceiling, and keeps every other setting. A valid configuration keeps its timeout, and
after clamping it has exactly one problem when its worker ceiling is zero, none otherwise. -/
theorem clamp_keeps_validity (c : Config) :
    c.clamp.1 = { c with limits := { c.limits with
        maxWorkers := min c.limits.maxWorkers c.limits.maxAllowedWorkers,
        timeoutSecs := min c.limits.timeoutSecs c.limits.maxAllowedTimeout,
        maxOutputCapture := min c.limits.maxOutputCapture c.limits.maxAllowedOutput } } ∧
    (c.validate = .ok () →
      c.clamp.1.problems =
        if c.limits.maxAllowedWorkers = 0 then ["max_workers must be positive"] else []) := by
  refine ⟨by rw [Config.clamp_fst, Limits.clamp_fst], fun hv => ?_⟩
  have hp := (Config.validate_eq_ok_iff c).1 hv
  simp only [Config.problems, List.append_eq_nil_iff] at hp
  obtain ⟨⟨⟨hl, hs⟩, he⟩, ha⟩ := hp
  obtain ⟨hw0, ht0, htc, hcc, hwl, hwh, hdl, hdh⟩ := (Limits.problems_eq_nil_iff _).1 hl
  -- a valid timeout is already below its ceiling, so only the worker count can change a rule
  have htm : min c.limits.timeoutSecs c.limits.maxAllowedTimeout = c.limits.timeoutSecs :=
    Nat.min_eq_left htc
  rw [Config.clamp_fst, Limits.clamp_fst]
  simp only [Config.problems, Limits.problems, htm, hs, he, ha, hwl, hwh, hdl, hdh, ht0,
    List.append_nil]
  by_cases hz : c.limits.maxAllowedWorkers = 0 <;> simp [hz, hw0, htc, hcc]

/-- The default configuration with a worker ceiling of zero is valid, and clamped it has the one
problem of a zero worker count. -/
theorem clamp_keeps_validity_zero_ceiling :
    let c : Config := { limits := { maxWorkers := 5, maxAllowedWorkers := 0 } }
    c.validate = .ok () ∧ c.clamp.1.problems = ["max_workers must be positive"] :=
  ⟨rfl, (clamp_keeps_validity _).2 rfl⟩

/-- Clamping does not keep every valid configuration valid: five workers under a ceiling of zero
are lowered to none. -/
theorem clamp_breaks_zero_worker_ceiling :
    ¬ ∀ c : Config, c.validate = .ok () → c.clamp.1.validate = .ok () := by
  intro h
  let c : Config := { limits := { maxWorkers := 5, maxAllowedWorkers := 0 } }
  have hc : c.clamp.1.problems ≠ [] := by decide
  exact hc ((Config.validate_eq_ok_iff _).1 (h c ((Config.validate_eq_ok_iff c).2 (by decide))))

end Fanout
