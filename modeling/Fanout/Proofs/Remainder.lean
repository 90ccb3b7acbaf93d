import Fanout.Run.Summary

/-!
# Summary counts at the edge of the word

`Summary.make` adds the successes and failures with a checked sum and takes as cancelled what
the total leaves of it, saturating at zero; `Summary.isConsistent` adds the three parts again,
each sum checked. Only the first sum can stop the program. Its parts add up to the larger of the
total and the successes and failures (`parts_eq_max`), and that fits a word whenever both do, so
for a total that fits, the consistency check always answers, and it answers whether the
successes and failures stay within the total (`make_counts_at_word_edge`).
-/

namespace Fanout

namespace Summary

/-- Successes and failures that fit a word make a summary with the rest of the total as
cancelled. -/
theorem make_of_le {t c f : Nat} (r : StopReason) (h : c + f ≤ wordMax) :
    make t c f r = .ok ⟨t, c, f, t - (c + f), r⟩ := by
  simp only [make, addCounts_ok h]
  rfl

/-- Successes and failures past a word stop the program with the message of a sum. -/
theorem make_of_lt {t c f : Nat} (r : StopReason) (h : wordMax < c + f) :
    make t c f r = .error Abort.addOverflow := by
  simp only [make, addCounts_error h]
  rfl

/-- A made summary is the one with the rest of the total as cancelled, and only successes and
failures that fit a word make one. -/
theorem make_eq_ok_iff {t c f : Nat} {r : StopReason} {s : Summary} :
    make t c f r = .ok s ↔ c + f ≤ wordMax ∧ s = ⟨t, c, f, t - (c + f), r⟩ := by
  by_cases h : c + f ≤ wordMax
  · rw [make_of_le r h, Except.ok.injEq]
    exact ⟨fun hs => ⟨h, hs.symm⟩, fun hs => hs.2.symm⟩
  · rw [make_of_lt r (Nat.lt_of_not_le h)]
    simp [h]

/-- The consistency check answers whenever the three parts fit a word. -/
theorem isConsistent_of_le {s : Summary} (h : s.completed + s.failed + s.cancelled ≤ wordMax) :
    s.isConsistent = .ok (s.completed + s.failed + s.cancelled == s.total) := by
  have hcf : s.completed + s.failed ≤ wordMax := by omega
  simp only [isConsistent, addCounts_ok hcf, bind, Except.bind, addCounts_ok h]
  rfl

/-- The cancelled count brings the successes and failures up to the larger of them and the
total. -/
theorem parts_eq_max (t d : Nat) : d + (t - d) = max t d := by
  rw [Nat.add_comm, Nat.sub_add_eq_max]

/-- The parts add up to the total exactly when the successes and failures stay within it. -/
theorem parts_beq_total (t d : Nat) : (d + (t - d) == t) = decide (d ≤ t) := by
  rw [Bool.eq_iff_iff, beq_iff_eq, decide_eq_true_iff]
  omega

/-- The counts of a summary at every size of a word. Making it stops the program exactly when
the successes and failures leave the word. Otherwise the cancelled count is the rest of the
total, or zero when they exceed it, and for a total that fits a word the consistency check
never overflows: it answers whether the successes and failures stay within the total. -/
theorem make_counts_at_word_edge (t c f : Nat) (r : StopReason) (ht : t ≤ wordMax) :
    (make t c f r = .error Abort.addOverflow ↔ wordMax < c + f) ∧
    (c + f ≤ wordMax → ∃ s, make t c f r = .ok s ∧
      s.cancelled = (if c + f ≤ t then t - (c + f) else 0) ∧
      s.isConsistent = .ok (decide (c + f ≤ t))) := by
  refine ⟨⟨fun h => ?_, make_of_lt r⟩, fun h => ⟨_, make_of_le r h, ?_, ?_⟩⟩
  · -- a sum that fits makes a summary, which is no error
    refine Nat.lt_of_not_le fun hle => ?_
    rw [make_of_le r hle] at h
    cases h
  · dsimp only
    split <;> omega
  · -- the second sum fits: it is the larger of the total and the first sum, and both fit
    have hfit : c + f + (t - (c + f)) ≤ wordMax :=
      calc c + f + (t - (c + f)) = max t (c + f) := parts_eq_max t (c + f)
        _ ≤ wordMax := Nat.max_le.2 ⟨ht, h⟩
    rw [isConsistent_of_le hfit]
    exact congrArg Except.ok (parts_beq_total t (c + f))

example : make 10 3 2 .shutdown = .ok ⟨10, 3, 2, 5, .shutdown⟩ ∧
    (⟨10, 3, 2, 5, .shutdown⟩ : Summary).isConsistent = .ok true :=
  ⟨rfl, rfl⟩

/-- Successes and failures that fill the word and pass the total: the summary is made, nothing
is cancelled, and the check answers that the parts do not add up. -/
theorem make_counts_at_word_edge_full_word :
    (10 : Nat) ≤ wordMax ∧
    ((make 10 (wordMax - 1) 1 .shutdown = .error Abort.addOverflow ↔ wordMax < wordMax - 1 + 1) ∧
      (wordMax - 1 + 1 ≤ wordMax → ∃ s, make 10 (wordMax - 1) 1 .shutdown = .ok s ∧
        s.cancelled = (if wordMax - 1 + 1 ≤ 10 then 10 - (wordMax - 1 + 1) else 0) ∧
        s.isConsistent = .ok (decide (wordMax - 1 + 1 ≤ 10)))) :=
  ⟨by decide, make_counts_at_word_edge 10 (wordMax - 1) 1 .shutdown (by decide)⟩

end Summary

end Fanout
