import Fanout.Run.Shutdown
import Mathlib.Logic.Relation
import Mathlib.Data.List.Nodup

/-!
# Calls at once on clones of one shutdown handle

Clones of a shutdown handle share one state: the request counter and the two tokens. A call on a
clone is not one atomic step but three: it adds one to the counter and sees the count before it,
cancels the graceful token, and then a request cancels the force token only when it did not come
first, where a force always does. Calls on different clones interleave their steps in any order.

This module takes the calls step by step (`Call.step`, `Race.Step`). One call on its own does
what `Shutdown.request` and `Shutdown.force` do (`Race.request_alone`, `Race.force_alone`). Every
interleaving keeps the counting straight (`concurrent_requests_counted`): the calls see the counts
0, 1, 2, ... each once, so one call comes first; a forced stop is always a requested one; and once
all calls have returned, the stop is requested when there was a call, and forced when there were
two or a force. The argument is one invariant (`Race.Inv`) that each step keeps.
-/

namespace Fanout

namespace Shutdown

/-! ## The atomic steps of a call -/

/-- Add one to the request counter; the count before comes back. -/
def fetchAdd (s : Shutdown) : Nat × Shutdown := (s.requests, { s with requests := s.requests + 1 })

/-- Cancel the graceful token: a stop is requested. -/
def cancelGraceful (s : Shutdown) : Shutdown := { s with requested := true }

/-- Cancel the force token: the stop is forced. -/
def cancelForce (s : Shutdown) : Shutdown := { s with forced := true }

/-- A request is its three steps in a row. -/
theorem request_eq_steps (s : Shutdown) :
    s.request =
      if 0 < s.fetchAdd.1 then (true, s.fetchAdd.2.cancelGraceful.cancelForce)
      else (false, s.fetchAdd.2.cancelGraceful) := by
  by_cases hp : 0 < s.requests <;> simp [request, fetchAdd, cancelGraceful, cancelForce, hp]

/-- So is a force. -/
theorem force_eq_steps (s : Shutdown) : s.force = s.fetchAdd.2.cancelGraceful.cancelForce := rfl

/-- What a clone of the handle is asked to do. -/
inductive Call where
  | request
  | force
  deriving DecidableEq, Repr

/-- How far a call has got. -/
inductive Pc where
  /-- Not started. -/
  | start
  /-- Added one to the counter, which stood at `prev`. -/
  | counted (prev : Nat)
  /-- Cancelled the graceful token. -/
  | signalled (prev : Nat)
  /-- Returned; `forced` tells whether the call forced the stop, which is what a request
  answers. -/
  | done (prev : Nat) (forced : Bool)
  deriving DecidableEq, Repr

namespace Pc

/-- The count a call saw, once it has added to it. -/
def observed : Pc → Option Nat
  | start => none
  | counted prev | signalled prev | done prev _ => some prev

/-- Whether the call has cancelled the graceful token. -/
def signalledYet : Pc → Bool
  | start | counted _ => false
  | signalled _ | done _ _ => true

/-- Whether the call has returned having forced the stop. -/
def forcing : Pc → Bool
  | done _ forced => forced
  | _ => false

/-- Whether the call has returned. -/
def returned : Pc → Bool
  | done _ _ => true
  | _ => false

/-- The steps a call has left. -/
def left : Pc → Nat
  | start => 3
  | counted _ => 2
  | signalled _ => 1
  | done _ _ => 0

theorem returned_iff {pc : Pc} : pc.returned = true ↔ ∃ prev forced, pc = .done prev forced := by
  cases pc <;> simp [returned]

theorem left_eq_zero_iff {pc : Pc} : pc.left = 0 ↔ pc.returned = true := by
  cases pc <;> simp [left, returned]

/-- A call that forced the stop had cancelled the graceful token. -/
theorem signalledYet_of_forcing {pc : Pc} (h : pc.forcing = true) : pc.signalledYet = true := by
  cases pc <;> simp_all [forcing, signalledYet]

end Pc

/-- The next atomic step of a call on the shared state; none once the call has returned. -/
def Call.step : Call → Pc → Shutdown → Option (Pc × Shutdown)
  | _, .start, s => some (.counted s.fetchAdd.1, s.fetchAdd.2)
  | _, .counted prev, s => some (.signalled prev, s.cancelGraceful)
  | .request, .signalled prev, s =>
    if 0 < prev then some (.done prev true, s.cancelForce) else some (.done prev false, s)
  | .force, .signalled prev, s => some (.done prev true, s.cancelForce)
  | _, .done _ _, _ => none

/-- What one step of a call can do: count, cancel the graceful token, return first without
forcing, or return forcing the stop. -/
theorem Call.step_cases {c : Call} {pc pc' : Pc} {s s' : Shutdown}
    (h : c.step pc s = some (pc', s')) :
    (pc = .start ∧ pc' = .counted s.requests ∧ s' = s.fetchAdd.2) ∨
    (∃ prev, pc = .counted prev ∧ pc' = .signalled prev ∧ s' = s.cancelGraceful) ∨
    (c = .request ∧ pc = .signalled 0 ∧ pc' = .done 0 false ∧ s' = s) ∨
    (∃ prev, (c = .force ∨ 0 < prev) ∧ pc = .signalled prev ∧ pc' = .done prev true ∧
      s' = s.cancelForce) := by
  cases pc with
  | start =>
      simp only [step, Option.some.injEq, Prod.mk.injEq] at h
      exact .inl ⟨rfl, h.1.symm, h.2.symm⟩
  | counted prev =>
      simp only [step, Option.some.injEq, Prod.mk.injEq] at h
      exact .inr (.inl ⟨prev, rfl, h.1.symm, h.2.symm⟩)
  | signalled prev =>
      cases c with
      | request =>
          by_cases hp : 0 < prev
          · simp only [step, hp, if_true, Option.some.injEq, Prod.mk.injEq] at h
            exact .inr (.inr (.inr ⟨prev, .inr hp, rfl, h.1.symm, h.2.symm⟩))
          · simp only [step, hp, if_false, Option.some.injEq, Prod.mk.injEq] at h
            obtain rfl : prev = 0 := by omega
            exact .inr (.inr (.inl ⟨rfl, rfl, h.1.symm, h.2.symm⟩))
      | force =>
          simp only [step, Option.some.injEq, Prod.mk.injEq] at h
          exact .inr (.inr (.inr ⟨prev, .inl rfl, rfl, h.1.symm, h.2.symm⟩))
  | done prev forced => cases c <;> simp [step] at h

/-- A call that has not returned can always take its next step, which leaves it one step
fewer. -/
theorem Call.step_of_not_returned (c : Call) {pc : Pc} (h : pc.returned = false) (s : Shutdown) :
    ∃ pc' s', c.step pc s = some (pc', s') ∧ pc'.left + 1 = pc.left := by
  cases pc with
  | start => exact ⟨_, _, rfl, rfl⟩
  | counted prev => exact ⟨_, _, rfl, rfl⟩
  | signalled prev =>
      cases c with
      | request =>
          by_cases hp : 0 < prev
          · exact ⟨.done prev true, s.cancelForce, by simp [step, hp], rfl⟩
          · exact ⟨.done prev false, s, by simp [step, hp], rfl⟩
      | force => exact ⟨_, _, rfl, rfl⟩
  | done prev forced => cases h

/-! ## Interleavings -/

/-- Calls made at once on clones of one handle: the state they share, and each call with how far
it has got. -/
structure Race where
  shared : Shutdown
  calls : List (Call × Pc)
  deriving DecidableEq, Repr

namespace Race

/-- The calls `cs` on clones of a fresh handle, none started. -/
def start (cs : List Call) : Race := ⟨{}, cs.map fun c => (c, .start)⟩

/-- One call takes its next step while the others wait. -/
inductive Step : Race → Race → Prop
  | call {c : Call} {pc pc' : Pc} {s s' : Shutdown} (pre post : List (Call × Pc)) :
      c.step pc s = some (pc', s') → Step ⟨s, pre ++ (c, pc) :: post⟩ ⟨s', pre ++ (c, pc') :: post⟩

/-- The call at position `i` takes its next step. -/
def stepAt (r : Race) (i : Nat) : Option Race :=
  match r.calls[i]? with
  | some (c, pc) => (c.step pc r.shared).map fun (pc', s') => ⟨s', r.calls.set i (c, pc')⟩
  | none => none

/-- Let the calls take steps in the order a schedule names them; none when the schedule names a
call that has returned, or no call. -/
def run (r : Race) : List Nat → Option Race
  | [] => some r
  | i :: is => (r.stepAt i).bind fun r' => r'.run is

/-- All calls have returned. -/
def finished (r : Race) : Bool := r.calls.all (·.2.returned)

theorem done_of_finished {r : Race} (hfin : r.finished = true) {x : Call × Pc} (hx : x ∈ r.calls) :
    ∃ prev forced, x.2 = .done prev forced :=
  Pc.returned_iff.1 (List.all_eq_true.1 hfin x hx)

theorem step_of_stepAt {r r' : Race} {i : Nat} (h : r.stepAt i = some r') : Step r r' := by
  obtain ⟨s, calls⟩ := r
  unfold stepAt at h
  split at h
  · next c pc hi =>
      obtain ⟨⟨pc', s'⟩, hs, rfl⟩ := Option.map_eq_some_iff.1 h
      obtain ⟨hlt, heq⟩ := List.getElem?_eq_some_iff.1 hi
      -- the call at `i` stands between the calls before it and those after it
      have hcalls : calls = calls.take i ++ (c, pc) :: calls.drop (i + 1) := by
        rw [← heq, List.getElem_cons_drop, List.take_append_drop]
      dsimp only
      rw [List.set_eq_take_cons_drop _ hlt]
      conv => lhs; rw [hcalls]
      exact .call _ _ hs
  · cases h

/-- A schedule that runs through is an interleaving. -/
theorem reaches_of_run :
    ∀ (sched : List Nat) {r r' : Race}, r.run sched = some r' → Relation.ReflTransGen Step r r'
  | [], _, _, h => by
      cases h
      exact .refl
  | i :: is, r, r', h => by
      obtain ⟨r₁, h₁, h₂⟩ := Option.bind_eq_some_iff.1 h
      exact .head (step_of_stepAt h₁) (reaches_of_run is h₂)

/-- A request on its own runs through its three steps to what `Shutdown.request` gives. -/
theorem request_alone (s : Shutdown) :
    (Race.mk s [(.request, .start)]).run [0, 0, 0] =
      some ⟨s.request.2, [(.request, .done s.requests s.request.1)]⟩ := by
  by_cases hp : 0 < s.requests <;>
    simp [run, stepAt, Call.step, request_eq_steps, fetchAdd, hp]

/-- So does a force, to what `Shutdown.force` gives. -/
theorem force_alone (s : Shutdown) :
    (Race.mk s [(.force, .start)]).run [0, 0, 0] =
      some ⟨s.force, [(.force, .done s.requests true)]⟩ := by
  simp [run, stepAt, Call.step, force_eq_steps, fetchAdd]

/-- Every interleaving can go on until all calls have returned. -/
theorem exists_finished (r : Race) :
    ∃ r', Relation.ReflTransGen Step r r' ∧ r'.finished = true := by
  -- on the steps the calls have left, which each step lowers by one
  induction hn : (r.calls.map (·.2.left)).sum generalizing r with
  | zero =>
      refine ⟨r, .refl, ?_⟩
      simp only [finished, List.all_eq_true]
      intro x hx
      exact Pc.left_eq_zero_iff.1 (List.sum_eq_zero_iff_forall_eq_nat.1 hn _ (List.mem_map_of_mem hx))
  | succ n ih =>
      -- some call has a step left
      obtain ⟨x, hx, hl⟩ : ∃ x ∈ r.calls, 0 < x.2.left := by
        by_contra hne
        simp only [not_exists, not_and, Nat.not_lt, Nat.le_zero] at hne
        have hzero : (r.calls.map (·.2.left)).sum = 0 :=
          List.sum_eq_zero_iff_forall_eq_nat.2 fun a ha => by
            obtain ⟨y, hy, rfl⟩ := List.mem_map.1 ha
            exact hne y hy
        omega
      obtain ⟨pre, post, hsplit⟩ := List.append_of_mem hx
      have hnr : x.2.returned = false := Bool.eq_false_iff.2 fun hr => by
        rw [← Pc.left_eq_zero_iff] at hr
        omega
      obtain ⟨pc', s', hs, hleft⟩ := Call.step_of_not_returned x.1 hnr r.shared
      have hstep : Step r ⟨s', pre ++ (x.1, pc') :: post⟩ := by
        obtain ⟨s, calls⟩ := r
        dsimp only at hsplit
        subst hsplit
        exact .call pre post hs
      obtain ⟨r', hr', hfin⟩ := ih ⟨s', pre ++ (x.1, pc') :: post⟩ (by
        rw [hsplit] at hn
        simp only [List.map_append, List.map_cons, List.sum_append, List.sum_cons] at hn ⊢
        omega)
      exact ⟨r', .head hstep hr', hfin⟩

/-! ## What every interleaving keeps -/

/-- What every interleaving of the calls `cs` keeps. -/
structure Inv (cs : List Call) (r : Race) : Prop where
  /-- The calls are the ones made. -/
  kinds : r.calls.map (·.1) = cs
  /-- The calls that have added to the counter saw every count below it, each once. -/
  counts : (r.calls.filterMap (·.2.observed)).Perm (List.range r.shared.requests)
  /-- The graceful token is cancelled once a call has cancelled it. -/
  requested : r.shared.requested = r.calls.any (·.2.signalledYet)
  /-- The force token is cancelled once a call has returned having forced the stop. -/
  forced : r.shared.forced = r.calls.any (·.2.forcing)
  /-- A call forces the stop when it is a force, or a request that did not come first. -/
  answers : ∀ x ∈ r.calls, ∀ prev forced, x.2 = .done prev forced →
    (forced = true ↔ x.1 = .force ∨ 0 < prev)

theorem inv_start (cs : List Call) : Inv cs (start cs) where
  kinds := by simp [start, Function.comp_def]
  counts := by simp [start, Pc.observed]
  requested := by simp [start, Pc.signalledYet]
  forced := by simp [start, Pc.forcing]
  answers := by simp [start]

section Step

variable {cs : List Call} {c : Call} {pc pc' : Pc} {s s' : Shutdown} {pre post : List (Call × Pc)}

/-- A step of one call keeps the invariant when the counts seen, the tokens and the call's own
answer come out right: the other calls stand as they were. -/
theorem Inv.replace (h : Inv cs ⟨s, pre ++ (c, pc) :: post⟩)
    (hc : ((pre ++ (c, pc') :: post).filterMap (·.2.observed)).Perm (List.range s'.requests))
    (hg : s'.requested = (pre ++ (c, pc') :: post).any (·.2.signalledYet))
    (hf : s'.forced = (pre ++ (c, pc') :: post).any (·.2.forcing))
    (ha : ∀ prev forced, pc' = .done prev forced → (forced = true ↔ c = .force ∨ 0 < prev)) :
    Inv cs ⟨s', pre ++ (c, pc') :: post⟩ where
  kinds := by simpa using h.kinds
  counts := hc
  requested := hg
  forced := hf
  answers := by
    intro x hx prev forced hd
    rcases List.mem_append.1 hx with hx | hx
    · exact h.answers x (List.mem_append_left _ hx) prev forced hd
    · rcases List.mem_cons.1 hx with rfl | hx
      · exact ha prev forced hd
      · exact h.answers x (List.mem_append_right _ (List.mem_cons_of_mem _ hx)) prev forced hd

/-- A step past the counter leaves the counts seen as they were. -/
theorem Inv.counts_keep (h : Inv cs ⟨s, pre ++ (c, pc) :: post⟩)
    (ho : pc'.observed = pc.observed) (hreq : s'.requests = s.requests) :
    ((pre ++ (c, pc') :: post).filterMap (·.2.observed)).Perm (List.range s'.requests) := by
  have := h.counts
  simp only [List.filterMap_append, List.filterMap_cons, ho] at this ⊢
  rwa [hreq]

/-- Each step keeps the invariant. -/
theorem Inv.step {r r' : Race} (h : Inv cs r) (hs : Step r r') : Inv cs r' := by
  obtain ⟨pre, post, hc⟩ := hs
  rcases Call.step_cases hc with ⟨rfl, rfl, rfl⟩ | ⟨prev, rfl, rfl, rfl⟩ | ⟨rfl, rfl, rfl, rfl⟩ |
    ⟨prev, hforce, rfl, rfl, rfl⟩
  · -- counting: the call sees the counter, which moves on by one
    refine h.replace ?_ ?_ ?_ (fun _ _ hd => by cases hd)
    · have := h.counts
      simp only [List.filterMap_append, List.filterMap_cons, Pc.observed] at this ⊢
      simp only [fetchAdd, List.range_succ]
      exact List.perm_middle.trans ((this.cons _).trans (List.perm_append_singleton _ _).symm)
    · simpa [fetchAdd, Pc.signalledYet] using h.requested
    · simpa [fetchAdd, Pc.forcing] using h.forced
  · -- cancelling the graceful token
    refine h.replace (h.counts_keep rfl rfl) ?_ ?_ (fun _ _ hd => by cases hd)
    · simp [cancelGraceful, Pc.signalledYet]
    · simpa [cancelGraceful, Pc.forcing] using h.forced
  · -- the first request returns without forcing
    refine h.replace (h.counts_keep rfl rfl) ?_ ?_ (fun _ _ hd => by cases hd; simp)
    · simpa [Pc.signalledYet] using h.requested
    · simpa [Pc.forcing] using h.forced
  · -- a force, or a later request, forces the stop
    refine h.replace (h.counts_keep rfl rfl) ?_ ?_ (fun _ _ hd => by cases hd; simpa using hforce)
    · simpa [cancelForce, Pc.signalledYet] using h.requested
    · simp [cancelForce, Pc.forcing]

theorem Inv.reaches {r r' : Race} (h : Inv cs r) (hr : Relation.ReflTransGen Step r r') :
    Inv cs r' := by
  induction hr with
  | refl => exact h
  | tail _ hs ih => exact ih.step hs

end Step

section Consequences

variable {cs : List Call} {r : Race}

/-- A forced stop is a requested one: the call that forced it cancelled the graceful token
first. -/
theorem Inv.requested_of_forced (h : Inv cs r) (hf : r.shared.forced = true) :
    r.shared.requested = true := by
  rw [h.forced, List.any_eq_true] at hf
  obtain ⟨x, hx, hxf⟩ := hf
  rw [h.requested, List.any_eq_true]
  exact ⟨x, hx, Pc.signalledYet_of_forcing hxf⟩

/-- No two calls see the same count; in particular at most one sees zero. -/
theorem Inv.count_zero_le (h : Inv cs r) : (r.calls.filterMap (·.2.observed)).count 0 ≤ 1 := by
  rw [h.counts.count_eq]
  exact List.nodup_iff_count_le_one.1 (List.nodup_range) 0

/-- A request answers that it forced the stop exactly when it did not see zero. -/
theorem Inv.request_answer (h : Inv cs r) {prev : Nat} {forced : Bool}
    (hx : (Call.request, Pc.done prev forced) ∈ r.calls) : forced = false ↔ prev = 0 := by
  have := h.answers _ hx prev forced rfl
  cases forced
  · simpa using this
  · simp only [reduceCtorEq, false_or, true_iff] at this
    simp only [Bool.true_eq_false, false_iff]
    omega

/-- Once all calls have returned, each has added one to the counter. -/
theorem Inv.requests_of_finished (h : Inv cs r) (hfin : r.finished = true) :
    r.shared.requests = cs.length := by
  have hall : ∀ x ∈ r.calls, (x.2.observed).isSome := by
    intro x hx
    obtain ⟨prev, forced, hd⟩ := done_of_finished hfin hx
    simp [hd, Pc.observed]
  have hlen : (r.calls.filterMap (·.2.observed)).length = r.calls.length := by
    rw [List.length_filterMap_eq_countP, List.countP_eq_length]
    exact hall
  rw [← h.kinds, List.length_map, ← hlen, h.counts.length_eq, List.length_range]

/-- Once all calls have returned, one of them saw zero, if there was a call. -/
theorem Inv.count_zero_of_finished (h : Inv cs r) (hfin : r.finished = true) (hc : cs ≠ []) :
    (r.calls.filterMap (·.2.observed)).count 0 = 1 := by
  rw [h.counts.count_eq]
  refine List.count_eq_one_of_mem List.nodup_range ?_
  rw [List.mem_range, h.requests_of_finished hfin]
  exact List.length_pos_of_ne_nil hc

/-- Once all calls have returned, the stop is requested exactly when there was a call. -/
theorem Inv.requested_of_finished (h : Inv cs r) (hfin : r.finished = true) :
    r.shared.requested = true ↔ cs ≠ [] := by
  have hne : cs ≠ [] ↔ r.calls ≠ [] := by
    rw [← h.kinds, ne_eq, List.map_eq_nil_iff]
  rw [h.requested, List.any_eq_true, hne]
  constructor
  · rintro ⟨x, hx, -⟩
    exact List.ne_nil_of_mem hx
  · intro hc
    obtain ⟨x, hx⟩ := List.exists_mem_of_ne_nil _ hc
    obtain ⟨prev, forced, hd⟩ := done_of_finished hfin hx
    exact ⟨x, hx, by simp [hd, Pc.signalledYet]⟩

/-- Once all calls have returned, the stop is forced exactly when there were two calls or a
force: the second call to count forces it, as any force does. -/
theorem Inv.forced_of_finished (h : Inv cs r) (hfin : r.finished = true) :
    r.shared.forced = true ↔ 2 ≤ cs.length ∨ Call.force ∈ cs := by
  -- a returned call that answers it forced the stop makes the stop forced
  have hforces : ∀ x ∈ r.calls, ∀ prev, x.2 = .done prev true → r.shared.forced = true := by
    intro x hx prev hd
    rw [h.forced, List.any_eq_true]
    exact ⟨x, hx, by simp [hd, Pc.forcing]⟩
  have hreq := h.requests_of_finished hfin
  constructor
  · intro hf
    rw [h.forced, List.any_eq_true] at hf
    obtain ⟨x, hx, hxf⟩ := hf
    obtain ⟨prev, forced, hd⟩ := done_of_finished hfin hx
    obtain rfl : forced = true := by simpa [hd, Pc.forcing] using hxf
    rcases (h.answers x hx prev true hd).1 rfl with hk | hp
    · exact .inr (h.kinds ▸ List.mem_map.2 ⟨x, hx, hk⟩)
    · -- the count it saw is below the counter, which stands at the number of calls
      have hmem : prev ∈ List.range r.shared.requests :=
        h.counts.subset (List.mem_filterMap.2 ⟨x, hx, by simp [hd, Pc.observed]⟩)
      rw [List.mem_range, hreq] at hmem
      exact .inl (by omega)
  · rintro (h2 | hk)
    · -- the call that saw one forced the stop
      have hmem : 1 ∈ r.calls.filterMap (·.2.observed) :=
        h.counts.symm.subset (by rw [List.mem_range, hreq]; omega)
      obtain ⟨x, hx, hobs⟩ := List.mem_filterMap.1 hmem
      obtain ⟨prev, forced, hd⟩ := done_of_finished hfin hx
      obtain rfl : prev = 1 := by simpa [hd, Pc.observed] using hobs
      obtain rfl : forced = true := (h.answers x hx 1 forced hd).2 (.inr Nat.one_pos)
      exact hforces x hx 1 hd
    · rw [← h.kinds] at hk
      obtain ⟨x, hx, hkx⟩ := List.mem_map.1 hk
      obtain ⟨prev, forced, hd⟩ := done_of_finished hfin hx
      obtain rfl : forced = true := (h.answers x hx prev forced hd).2 (.inl hkx)
      exact hforces x hx prev hd

end Consequences

end Race

theorem length_eq_count_add_count (cs : List Call) :
    cs.length = cs.count .request + cs.count .force := by
  induction cs with
  | nil => rfl
  | cons c cs ih => cases c <;> simp [ih] <;> omega

open Race in
/-- Requests made at once on clones of a fresh handle are counted straight, whatever the order
in which their steps interleave with each other. At every moment a forced stop is a requested
one, at most one call has seen the counter at zero, and a request answers that it forced the stop
exactly when it did not see zero. The calls can always go on until all have returned; then one
call saw zero if there was a call, the stop is requested exactly when there was one, and forced
exactly when there were two or a force among them. -/
theorem concurrent_requests_counted (cs : List Call) {r : Race}
    (hr : Relation.ReflTransGen Step (start cs) r) :
    (r.shared.forced = true → r.shared.requested = true) ∧
    (r.calls.filterMap (·.2.observed)).count 0 ≤ 1 ∧
    (∀ prev forced, (Call.request, Pc.done prev forced) ∈ r.calls → (forced = false ↔ prev = 0)) ∧
    (∃ r', Relation.ReflTransGen Step r r' ∧ r'.finished = true) ∧
    (r.finished = true →
      (1 ≤ cs.count .request + cs.count .force →
        (r.calls.filterMap (·.2.observed)).count 0 = 1) ∧
      (r.shared.requested = true ↔ 1 ≤ cs.count .request + cs.count .force) ∧
      (r.shared.forced = true ↔ 2 ≤ cs.count .request + cs.count .force ∨ 1 ≤ cs.count .force)) := by
  have h := (inv_start cs).reaches hr
  -- the number of calls, and whether one of them is a force
  have hlen := length_eq_count_add_count cs
  have hone : 1 ≤ cs.count .request + cs.count .force ↔ cs ≠ [] := by
    rw [← hlen, Nat.one_le_iff_ne_zero, ne_eq, List.length_eq_zero_iff]
  have hforce : 1 ≤ cs.count .force ↔ Call.force ∈ cs := List.count_pos_iff
  refine ⟨h.requested_of_forced, h.count_zero_le, fun _ _ hx => h.request_answer hx,
    exists_finished r, fun hfin => ⟨fun hc => h.count_zero_of_finished hfin (hone.1 hc),
      (h.requested_of_finished hfin).trans hone.symm, ?_⟩⟩
  rw [h.forced_of_finished hfin, hlen, hforce]

/-- Two requests and a force, with the second request forcing the stop before the first has
cancelled the graceful token: the first request answers that it did not force the stop, and the
stop ends requested and forced. -/
theorem two_requests_and_a_force :
    let cs := [Call.request, .request, .force]
    let r : Race := ⟨{ requests := 3, requested := true, forced := true },
      [(.request, .done 0 false), (.request, .done 1 true), (.force, .done 2 true)]⟩
    (Race.start cs).run [0, 1, 2, 1, 1, 0, 2, 0, 2] = some r ∧
      (r.shared.forced = true → r.shared.requested = true) ∧
      (r.shared.forced = true ↔ 2 ≤ cs.count .request + cs.count .force ∨ 1 ≤ cs.count .force) := by
  intro cs r
  have hrun : (Race.start cs).run [0, 1, 2, 1, 1, 0, 2, 0, 2] = some r := by decide
  have h := concurrent_requests_counted cs (Race.reaches_of_run _ hrun)
  exact ⟨hrun, h.1, (h.2.2.2.2 rfl).2.2⟩

end Shutdown

end Fanout
