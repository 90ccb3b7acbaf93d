import Fanout.Run.Stop
import Fanout.Config.Basic
import Fanout.Count

/-!
# The circuit breaker

A pure test over the run's counters: it trips when the consecutive unsuccessful outcomes reach
their limit, and otherwise, once enough outcomes are in, when the failure rate is strictly above
its limit. The first condition is tested first. The breaker keeps no state of its own.
-/

namespace Fanout

namespace Breaker

/-- The failure rate: failures over finished outcomes, in binary64. -/
def failureRate (failed totalCompleted : Nat) : Float :=
  Count.toFloat failed / Count.toFloat totalCompleted

/-- The first tripped condition, if any. -/
def evaluate (consecutive totalCompleted failed : Nat) (cfg : AutoStop) : Option Trip :=
  if consecutive ≥ cfg.maxConsecutiveFailures then
    some (.consecutive consecutive cfg.maxConsecutiveFailures)
  else if totalCompleted > 0 && totalCompleted ≥ cfg.minTasksForRateCheck then
    let rate := failureRate failed totalCompleted
    if rate > cfg.maxFailureRate then some (.rate rate cfg.maxFailureRate totalCompleted)
    else none
  else none

/-- Whether some condition tripped. -/
def shouldStop (consecutive totalCompleted failed : Nat) (cfg : AutoStop) : Bool :=
  (evaluate consecutive totalCompleted failed cfg).isSome

theorem evaluate_consecutive {c t f : Nat} {cfg : AutoStop} (h : cfg.maxConsecutiveFailures ≤ c) :
    evaluate c t f cfg = some (.consecutive c cfg.maxConsecutiveFailures) := by
  simp [evaluate, h]

theorem evaluate_none_of_empty {c : Nat} {cfg : AutoStop} (f : Nat)
    (h : c < cfg.maxConsecutiveFailures) : evaluate c 0 f cfg = none := by
  simp [evaluate, Nat.not_le.mpr h]

end Breaker

end Fanout
