import Fanout.Proofs.Pool
import Fanout.Run.Breaker

/-!
# What the counters say about the outcomes

The pool counts the outcomes it records: all of them, the successes, the failures (failed, timed
out or erred) and the unsuccessful outcomes since the last success, the last held in a 32-bit
word. Each count is a function of the statuses recorded so far, in order (`Pool.Tallies`). The
circuit breaker reads nothing else, so once the first `k` outcomes are in, its verdict is
`verdictAt cfg ss k`, which the first `k` statuses of `ss` determine. A cancellation resets no
run and is no failure, yet it counts in the total.
-/

namespace Fanout

namespace Breaker

/-- The length of the longest suffix of `ss` without a success: the unsuccessful outcomes that
end it, cancellations included. -/
def streak (ss : List Status) : Nat := (ss.reverse.takeWhile fun s => !s.isSuccess).length

/-- The outcomes among `ss` that failed, timed out or erred. -/
def failures (ss : List Status) : Nat := ss.countP (·.isFailure)

/-- The successes among `ss`. -/
def successes (ss : List Status) : Nat := ss.countP (·.isSuccess)

/-- The breaker's verdict once the first `k` outcomes of `ss` are in. -/
def verdictAt (cfg : AutoStop) (ss : List Status) (k : Nat) : Option Trip :=
  evaluate (min (streak (ss.take k)) halfWordMax) k (failures (ss.take k)) cfg

/-- The breaker has no verdict on any of the first `n` outcomes of `ss`. -/
def Silent (cfg : AutoStop) (ss : List Status) (n : Nat) : Prop :=
  ∀ k, 0 < k → k ≤ n → verdictAt cfg ss k = none

/-- `t` is the breaker's verdict at the `k`-th outcome of `ss`, the first one where it has one. -/
def FirstTrip (cfg : AutoStop) (ss : List Status) (k : Nat) (t : Trip) : Prop :=
  0 < k ∧ k ≤ ss.length ∧ verdictAt cfg ss k = some t ∧ Silent cfg ss (k - 1)

@[simp] theorem streak_nil : streak [] = 0 := rfl

theorem streak_concat (ss : List Status) (s : Status) :
    streak (ss ++ [s]) = if s.isSuccess then 0 else streak ss + 1 := by
  cases h : s.isSuccess <;> simp [streak, h]

theorem failures_concat (ss : List Status) (s : Status) :
    failures (ss ++ [s]) = failures ss + if s.isFailure then 1 else 0 := by
  simp [failures, List.countP_append]

theorem successes_concat (ss : List Status) (s : Status) :
    successes (ss ++ [s]) = successes ss + if s.isSuccess then 1 else 0 := by
  simp [successes, List.countP_append]

/-- A verdict on the first `k` outcomes does not change as more come in. -/
theorem verdictAt_append {cfg : AutoStop} {ss : List Status} (xs : List Status) {k : Nat}
    (hk : k ≤ ss.length) : verdictAt cfg (ss ++ xs) k = verdictAt cfg ss k := by
  simp [verdictAt, List.take_append_of_le_length hk]

theorem verdictAt_length (cfg : AutoStop) (ss : List Status) :
    verdictAt cfg ss ss.length =
      evaluate (min (streak ss) halfWordMax) ss.length (failures ss) cfg := by
  simp [verdictAt]

theorem Silent.zero (cfg : AutoStop) (ss : List Status) : Silent cfg ss 0 :=
  fun _ hk hn => absurd hk (by omega)

theorem Silent.append {cfg : AutoStop} {ss : List Status} {n : Nat} (h : Silent cfg ss n)
    (hn : n ≤ ss.length) (xs : List Status) : Silent cfg (ss ++ xs) n := fun k hk hkn => by
  rw [verdictAt_append xs (by omega)]
  exact h k hk hkn

/-- Silent on every outcome so far, and on the one that comes in. -/
theorem Silent.concat {cfg : AutoStop} {ss : List Status} (h : Silent cfg ss ss.length)
    {s : Status} (hs : verdictAt cfg (ss ++ [s]) (ss.length + 1) = none) :
    Silent cfg (ss ++ [s]) (ss ++ [s]).length := fun k hk hkn => by
  rcases Nat.lt_or_ge k (ss.length + 1) with hlt | hge
  · exact (h.append le_rfl [s]) k hk (by omega)
  · have hk' : k = ss.length + 1 := by simp at hkn; omega
    rw [hk']
    exact hs

theorem FirstTrip.append {cfg : AutoStop} {ss : List Status} {k : Nat} {t : Trip}
    (h : FirstTrip cfg ss k t) (xs : List Status) : FirstTrip cfg (ss ++ xs) k t := by
  obtain ⟨hk, hkn, hv, hs⟩ := h
  refine ⟨hk, by simp; omega, ?_, hs.append (by omega) xs⟩
  rw [verdictAt_append xs hkn]
  exact hv

/-- The first verdict, when the breaker was silent on every outcome before it. -/
theorem FirstTrip.of_silent {cfg : AutoStop} {ss : List Status} {s : Status} {t : Trip}
    (h : Silent cfg ss ss.length) (hv : verdictAt cfg (ss ++ [s]) (ss.length + 1) = some t) :
    FirstTrip cfg (ss ++ [s]) (ss.length + 1) t :=
  ⟨by omega, by simp, hv, by simpa using h.append le_rfl [s]⟩

/-- The count of a consecutive-failures verdict never exceeds the limit on its first firing:
the streak grows by one outcome at a time, and it stood below the limit the outcome before.
It equals the limit when the limit is positive. -/
theorem FirstTrip.consecutive {cfg : AutoStop} {ss : List Status} {k c l : Nat}
    (h : FirstTrip cfg ss k (.consecutive c l)) (hpos : 0 < cfg.maxConsecutiveFailures) :
    c = cfg.maxConsecutiveFailures ∧ l = cfg.maxConsecutiveFailures := by
  obtain ⟨hk, hkn, hv, hs⟩ := h
  obtain ⟨j, rfl⟩ : ∃ j, k = j + 1 := ⟨k - 1, by omega⟩
  -- the streak after `j + 1` outcomes is at most one more than after `j`
  have hgrow : streak (ss.take (j + 1)) ≤ streak (ss.take j) + 1 := by
    rw [List.take_succ_eq_append_getElem (by omega), streak_concat]
    split <;> omega
  -- and the streak after `j` outcomes stood below the limit
  have hbelow : min (streak (ss.take j)) halfWordMax < cfg.maxConsecutiveFailures := by
    rcases Nat.eq_zero_or_pos j with h0 | h0
    · rw [h0]
      simpa using hpos
    · have hnone := hs j h0 (by omega)
      simp only [verdictAt] at hnone
      unfold evaluate at hnone
      split at hnone
      · cases hnone
      · omega
  simp only [verdictAt] at hv
  unfold evaluate at hv
  split at hv
  · next hge =>
      cases hv
      exact ⟨by omega, rfl⟩
  · split at hv
    · dsimp only at hv
      split at hv <;> cases hv
    · cases hv

/-- A failure-rate verdict counts every outcome in so far, at least one and at least the
minimum the rate check waits for. -/
theorem verdictAt_rate {cfg : AutoStop} {ss : List Status} {k c : Nat} {r l : Float}
    (h : verdictAt cfg ss k = some (.rate r l c)) :
    c = k ∧ 0 < k ∧ cfg.minTasksForRateCheck ≤ k := by
  simp only [verdictAt] at h
  unfold evaluate at h
  split at h
  · cases h
  · split at h
    · next hmin =>
        dsimp only at h
        split at h
        · cases h
          simp only [Bool.and_eq_true, decide_eq_true_eq] at hmin
          exact ⟨rfl, hmin.1, hmin.2⟩
        · cases h
    · cases h

end Breaker

/-- A configuration that passes validation sets a positive limit on consecutive failures. -/
theorem Config.maxConsecutiveFailures_pos {c : Config} (h : c.problems = []) :
    0 < c.autoStop.maxConsecutiveFailures := by
  simp only [Config.problems, List.append_eq_nil_iff] at h
  have h0 := h.2
  simp only [AutoStop.problems, List.append_eq_nil_iff] at h0
  have h1 := h0.1
  split at h1
  · cases h1
  · omega

namespace Pool

open Breaker

/-- The pool's counters are those of the statuses `ss`, recorded in order. -/
structure Tallies (p : Pool) (ss : List Status) : Prop where
  total : p.totalCompleted = ss.length
  completed : p.completed = successes ss
  failed : p.failed = failures ss
  streak : p.consecutiveFailures = min (streak ss) halfWordMax

theorem tallies_make (jobs : List Job) (m : Nat) : (make jobs m).Tallies [] :=
  ⟨rfl, rfl, rfl, rfl⟩

/-- Recording an outcome counts its status after the others. -/
theorem Tallies.record {p : Pool} {ss : List Status} (h : p.Tallies ss) (s : Status) :
    (p.record s).Tallies (ss ++ [s]) := by
  rw [record_eq]
  refine ⟨?_, ?_, ?_, ?_⟩ <;> dsimp only
  · simp [h.total]
  · simp [h.completed, successes_concat]
  · rw [failures_concat, h.failed]
    cases s <;> rfl
  · rw [streak_concat, h.streak]
    split <;> omega

/-- Counters that tally `ss` give the breaker its verdict on the whole of `ss`. -/
theorem Tallies.evaluate {p : Pool} {ss : List Status} (h : p.Tallies ss) (cfg : AutoStop) :
    Breaker.evaluate p.consecutiveFailures p.totalCompleted p.failed cfg =
      verdictAt cfg ss ss.length := by
  rw [verdictAt_length, h.streak, h.total, h.failed]

end Pool

end Fanout
