import Mathlib.Data.List.Sort
import Fanout.Run.Pool

/-!
# The worker pool under any sequence of operations

A pool starts with every job waiting and the slots `1 … m` free. Its operations are a
dispatch, the completion of a key (known or not), the count of an outcome, a stop request and
the taking of every job still in flight, in any order and any number of times.

`Pool.Inv` is what every reachable pool satisfies: the free slots and the slots of the jobs in
flight are `1 … m`, each exactly once; the waiting jobs are those after the dispatched ones;
keys are the positions of their jobs, distinct and in order. Each operation keeps it
(`Inv.dispatchNext`, `Inv.complete`, `Inv.record`, …), so every run does (`Run.inv`).
A run also hands out its dispatches in job order (`Run.dispatches`), and a stop request
shuts the dispatching for good (`Run.shutdown`).
-/

namespace Fanout

theorem insertSlot_eq_orderedInsert (w : Nat) (l : List Nat) :
    insertSlot w l = l.orderedInsert (· ≤ ·) w := by
  induction l with
  | nil => rfl
  | cons s ss ih => simp [insertSlot, ih]

theorem insertSlot_perm (w : Nat) (l : List Nat) : (insertSlot w l).Perm (w :: l) := by
  rw [insertSlot_eq_orderedInsert]
  exact List.perm_orderedInsert _ w l

theorem insertSlot_sorted {w : Nat} {l : List Nat} (h : l.Pairwise (· ≤ ·)) :
    (insertSlot w l).Pairwise (· ≤ ·) := by
  rw [insertSlot_eq_orderedInsert]
  exact h.orderedInsert w l

/-- Inserting slots one by one keeps the list sorted and loses none. -/
theorem foldl_insertSlot {α : Type} (g : α → Nat) :
    ∀ (fl : List α) {s : List Nat}, s.Pairwise (· ≤ ·) →
      (fl.foldl (fun s f => insertSlot (g f) s) s).Pairwise (· ≤ ·) ∧
      (fl.foldl (fun s f => insertSlot (g f) s) s).Perm (s ++ fl.map g)
  | [], _, hs => ⟨hs, by simp⟩
  | f :: fl, s, hs => by
    obtain ⟨hsorted, hperm⟩ := foldl_insertSlot g fl (insertSlot_sorted (w := g f) hs)
    refine ⟨hsorted, hperm.trans ?_⟩
    have hstep : (insertSlot (g f) s ++ fl.map g).Perm ((g f :: s) ++ fl.map g) :=
      (insertSlot_perm _ _).append_right _
    exact hstep.trans (by simpa using List.perm_middle.symm)

namespace Pool

/-- The worker ids of the jobs in flight, in key order. -/
def workers (p : Pool) : List Nat := p.inFlight.map (·.2.dispatch.workerId)

theorem dispatchNext_cases (p : Pool) (now : Nat) :
    p.dispatchNext now = (none, p) ∨
    ∃ w ws job rest, p.shutdownRequested = false ∧ p.freeSlots = w :: ws ∧
      p.pending = job :: rest ∧
      p.dispatchNext now = (some (p.lastKey + 1, ⟨job, p.dispatched + 1, w⟩),
        { p with freeSlots := ws, pending := rest, dispatched := p.dispatched + 1,
                 lastKey := p.lastKey + 1,
                 inFlight := p.inFlight ++ [(p.lastKey + 1, ⟨⟨job, p.dispatched + 1, w⟩, now⟩)] }) := by
  unfold dispatchNext
  cases hs : p.shutdownRequested
  · rcases hf : p.freeSlots with _ | ⟨w, ws⟩ <;> rcases hp : p.pending with _ | ⟨job, rest⟩
    · exact .inl rfl
    · exact .inl rfl
    · exact .inl rfl
    · exact .inr ⟨w, ws, job, rest, rfl, rfl, rfl, rfl⟩
  · exact .inl rfl

/-- A job handed out comes from a dispatching pool with a free slot and a waiting job: it gets
the next key, the next task index and the lowest free slot, and the pool puts it in flight. -/
theorem dispatchNext_eq_some {p p' : Pool} {now k : Nat} {d : Dispatch}
    (hd : p.dispatchNext now = (some (k, d), p')) :
    ∃ w ws job rest, p.shutdownRequested = false ∧ p.freeSlots = w :: ws ∧
      p.pending = job :: rest ∧ k = p.lastKey + 1 ∧ d = ⟨job, p.dispatched + 1, w⟩ ∧
      p' = { p with freeSlots := ws, pending := rest, dispatched := p.dispatched + 1,
                    lastKey := p.lastKey + 1,
                    inFlight := p.inFlight ++ [(p.lastKey + 1, ⟨⟨job, p.dispatched + 1, w⟩, now⟩)] } := by
  rcases dispatchNext_cases p now with hn | ⟨w, ws, job, rest, hsd, hf, hp, he⟩
  · rw [hn] at hd
    cases hd
  · rw [he] at hd
    simp only [Prod.mk.injEq, Option.some.injEq] at hd
    obtain ⟨⟨rfl, rfl⟩, rfl⟩ := hd
    exact ⟨w, ws, job, rest, hsd, hf, hp, rfl, rfl, rfl⟩

theorem complete_cases (p : Pool) (k : Nat) :
    p.complete k = (none, p) ∨
    ∃ f, (k, f) ∈ p.inFlight ∧
      p.complete k = (some f, { p with
        inFlight := p.inFlight.filter (·.1 != k)
        freeSlots := insertSlot f.dispatch.workerId p.freeSlots }) := by
  unfold complete
  split
  · next e f heq =>
    have hk : e = k := by simpa using List.find?_some heq
    exact .inr ⟨f, hk ▸ List.mem_of_find?_eq_some heq, rfl⟩
  · exact .inl rfl


/-- Every slot is free or held by one job in flight. -/
structure Inv (jobs : List Job) (m : Nat) (p : Pool) : Prop where
  total : p.total = jobs.length
  pending : p.pending = jobs.drop p.dispatched
  dispatched_le : p.dispatched ≤ jobs.length
  last_key : p.lastKey = p.dispatched
  sorted : p.freeSlots.Pairwise (· ≤ ·)
  slots : (p.freeSlots ++ p.workers).Perm ((List.range m).map (· + 1))
  keys_sorted : (p.inFlight.map (·.1)).Pairwise (· < ·)
  key_bound : ∀ e ∈ p.inFlight, 0 < e.1 ∧ e.1 ≤ p.dispatched
  index : ∀ e ∈ p.inFlight, e.2.dispatch.taskIndex = e.1
  job : ∀ e ∈ p.inFlight, jobs[e.1 - 1]? = some e.2.dispatch.job
  counts : p.totalCompleted = p.completed + p.failed + p.cancelledOutcomes

variable {jobs : List Job} {m : Nat} {p : Pool}

theorem inv_make (jobs : List Job) (m : Nat) : (make jobs m).Inv jobs m where
  total := rfl
  pending := rfl
  dispatched_le := Nat.zero_le _
  last_key := rfl
  sorted := List.pairwise_map.2 (List.pairwise_le_range.imp (Nat.succ_le_succ ·))
  slots := by simp [make, workers]
  keys_sorted := by simp [make]
  key_bound := by simp [make]
  index := by simp [make]
  job := by simp [make]
  counts := rfl

/-- The job `jobs` holds after the first `d`, when some are left. -/
theorem drop_eq_cons {d : Nat} {job : Job} {rest : List Job} (h : jobs.drop d = job :: rest) :
    d < jobs.length ∧ jobs[d]? = some job ∧ rest = jobs.drop (d + 1) := by
  have hlen : d < jobs.length := by
    have := congrArg List.length h
    simp only [List.length_drop, List.length_cons] at this
    omega
  refine ⟨hlen, ?_, ?_⟩
  · rw [← Nat.add_zero d, ← List.getElem?_drop, h]
    rfl
  · simpa [List.drop_drop, Nat.add_comm] using (congrArg (List.drop 1) h).symm

theorem Inv.dispatchNext (h : p.Inv jobs m) (now : Nat) : (p.dispatchNext now).2.Inv jobs m := by
  rcases dispatchNext_cases p now with hn | ⟨w, ws, job, rest, -, hf, hp, he⟩
  · rw [hn]; exact h
  rw [he]
  dsimp only
  have hkey := h.last_key
  obtain ⟨hlen, hjob, hrest⟩ := drop_eq_cons (h.pending ▸ hp)
  have hslots := h.slots
  rw [hf] at hslots
  have hsorted := h.sorted
  rw [hf] at hsorted
  refine ⟨h.total, hrest, hlen, by simp [h.last_key], hsorted.of_cons, ?_, ?_, ?_, ?_, ?_, h.counts⟩
  · have hmove : (ws ++ (p.workers ++ [w])).Perm ((w :: ws) ++ p.workers) := by
      simpa using List.perm_append_singleton w (ws ++ p.workers)
    simpa [workers] using hmove.trans hslots
  · have hk := h.key_bound
    simp only [List.map_append, List.map_cons, List.map_nil]
    refine List.pairwise_append.2 ⟨h.keys_sorted, by simp, ?_⟩
    intro a ha b hb
    obtain ⟨e, he, rfl⟩ := List.mem_map.1 ha
    simp only [List.mem_singleton] at hb
    have := (hk e he).2
    omega
  -- the entries in flight are the old ones, which keep their facts, and the new one
  · rw [List.forall_mem_append, List.forall_mem_singleton]
    refine ⟨fun e he => ?_, by simp [h.last_key]⟩
    have := h.key_bound e he
    dsimp only
    omega
  · rw [List.forall_mem_append, List.forall_mem_singleton]
    exact ⟨h.index, by simp [h.last_key]⟩
  · rw [List.forall_mem_append, List.forall_mem_singleton]
    exact ⟨h.job, by simpa [h.last_key] using hjob⟩


/-- Filtering out a key that no entry has leaves the list. -/
theorem filter_key_of_not_mem {α : Type} {l : List (Nat × α)} {k : Nat} (hk : k ∉ l.map (·.1)) :
    l.filter (·.1 != k) = l := by
  refine List.filter_eq_self.2 fun x hx => ?_
  have hne : x.1 ≠ k := fun h => hk (h ▸ List.mem_map_of_mem hx)
  simpa using hne

/-- Removing the entry of a key from a list with distinct keys leaves the rest. -/
theorem perm_cons_filter {α : Type} {l : List (Nat × α)} {e : Nat × α}
    (hk : (l.map (·.1)).Nodup) (he : e ∈ l) : l.Perm (e :: l.filter (·.1 != e.1)) := by
  induction l with
  | nil => simp at he
  | cons x xs ih =>
    rw [List.map_cons, List.nodup_cons] at hk
    rcases List.mem_cons.1 he with rfl | he
    · simp [filter_key_of_not_mem hk.1]
    · have hne : x.1 ≠ e.1 := fun h => hk.1 (h ▸ List.mem_map_of_mem he)
      rw [List.filter_cons_of_pos (by simpa using hne)]
      exact ((ih hk.2 he).cons x).trans (List.Perm.swap e x _)

theorem Inv.complete (h : p.Inv jobs m) (k : Nat) : (p.complete k).2.Inv jobs m := by
  rcases complete_cases p k with hn | ⟨f, hmem, he⟩
  · rw [hn]; exact h
  rw [he]
  dsimp only
  have hw : p.workers.Perm (f.dispatch.workerId ::
      (p.inFlight.filter (·.1 != k)).map (·.2.dispatch.workerId)) := by
    simpa [workers] using (perm_cons_filter h.keys_sorted.nodup hmem).map (·.2.dispatch.workerId)
  refine ⟨h.total, h.pending, h.dispatched_le, h.last_key, insertSlot_sorted h.sorted, ?_, ?_,
    fun e he => h.key_bound e (List.mem_of_mem_filter he),
    fun e he => h.index e (List.mem_of_mem_filter he),
    fun e he => h.job e (List.mem_of_mem_filter he), h.counts⟩
  · have hins := (insertSlot_perm f.dispatch.workerId p.freeSlots).append_right
      ((p.inFlight.filter (·.1 != k)).map (·.2.dispatch.workerId))
    refine (hins.trans ?_).trans h.slots
    exact List.perm_middle.symm.trans (hw.symm.append_left _)
  · exact h.keys_sorted.sublist ((List.filter_sublist).map _)

/-- `record` only moves the counters. -/
theorem record_eq (p : Pool) (s : Status) : p.record s = { p with
    totalCompleted := p.totalCompleted + 1
    completed := p.completed + (if s.isSuccess then 1 else 0)
    failed := p.failed + (if !s.isSuccess && s.isFailure then 1 else 0)
    cancelledOutcomes := p.cancelledOutcomes + (if !s.isSuccess && !s.isFailure then 1 else 0)
    consecutiveFailures := if s.isSuccess then 0 else min (p.consecutiveFailures + 1) halfWordMax } := by
  cases s <;> rfl

theorem Inv.record (h : p.Inv jobs m) (s : Status) : (p.record s).Inv jobs m := by
  rw [record_eq]
  refine { h with counts := ?_ }
  have := h.counts
  cases s <;> simp [Status.isSuccess, Status.isFailure] <;> omega

theorem Inv.requestShutdown (h : p.Inv jobs m) : p.requestShutdown.2.Inv jobs m := { h with }

theorem Inv.takeInFlight (h : p.Inv jobs m) : p.takeInFlight.2.Inv jobs m := by
  obtain ⟨hsorted, hperm⟩ := foldl_insertSlot (·.dispatch.workerId) (p.inFlight.map (·.2)) h.sorted
  refine ⟨h.total, h.pending, h.dispatched_le, h.last_key, hsorted, ?_, by simp [Pool.takeInFlight],
    by simp [Pool.takeInFlight], by simp [Pool.takeInFlight], by simp [Pool.takeInFlight], h.counts⟩
  have hmap : (p.inFlight.map (·.2)).map (·.dispatch.workerId) = p.workers := by
    rw [List.map_map]; rfl
  rw [hmap] at hperm
  simpa [workers, Pool.takeInFlight] using hperm.trans h.slots


/-! ## Runs of operations -/

/-- One operation on a pool, labelled with the dispatch it hands out, if any. -/
inductive Step : Pool → Option (Nat × Dispatch) → Pool → Prop
  | dispatchNext (p : Pool) (now : Nat) : Step p (p.dispatchNext now).1 (p.dispatchNext now).2
  | complete (p : Pool) (k : Nat) : Step p none (p.complete k).2
  | record (p : Pool) (s : Status) : Step p none (p.record s)
  | requestShutdown (p : Pool) : Step p none p.requestShutdown.2
  | takeInFlight (p : Pool) : Step p none p.takeInFlight.2

/-- Operations taking `p` to `q`, with the dispatches they handed out in order. -/
inductive Run : Pool → List (Nat × Dispatch) → Pool → Prop
  | refl (p : Pool) : Run p [] p
  | tail {p q r : Pool} {ds : List (Nat × Dispatch)} {o : Option (Nat × Dispatch)} :
      Run p ds q → Step q o r → Run p (ds ++ o.toList) r

variable {q : Pool} {o : Option (Nat × Dispatch)}

theorem Step.inv (hs : Step p o q) (h : p.Inv jobs m) : q.Inv jobs m := by
  cases hs with
  | dispatchNext now => exact h.dispatchNext now
  | complete k => exact h.complete k
  | record s => exact h.record s
  | requestShutdown => exact h.requestShutdown
  | takeInFlight => exact h.takeInFlight

/-- A step hands out nothing and keeps the dispatch count, or it is a dispatch. -/
theorem Step.label (hs : Step p o q) :
    (o = none ∧ q.dispatched = p.dispatched) ∨
    ∃ now k d, o = some (k, d) ∧ p.dispatchNext now = (some (k, d), q) := by
  cases hs with
  | dispatchNext now =>
    rcases dispatchNext_cases p now with hn | ⟨w, ws, job, rest, -, -, -, he⟩
    · exact .inl ⟨by rw [hn], by rw [hn]⟩
    · exact .inr ⟨now, _, _, by rw [he], by rw [he]⟩
  | complete k =>
    rcases complete_cases p k with hn | ⟨f, -, he⟩
    · exact .inl ⟨rfl, by rw [hn]⟩
    · exact .inl ⟨rfl, by rw [he]⟩
  | record s => exact .inl ⟨rfl, by rw [record_eq]⟩
  | requestShutdown => exact .inl ⟨rfl, rfl⟩
  | takeInFlight => exact .inl ⟨rfl, rfl⟩

/-- What a dispatch hands out: the next key, the next job, and the lowest free slot. -/
theorem Inv.dispatchNext_some {now k : Nat} {d : Dispatch} (h : p.Inv jobs m)
    (hd : p.dispatchNext now = (some (k, d), q)) :
    k = p.dispatched + 1 ∧ d.taskIndex = k ∧ jobs[p.dispatched]? = some d.job ∧
      p.freeSlots.head? = some d.workerId ∧ (∀ w ∈ p.freeSlots, d.workerId ≤ w) ∧
      q.dispatched = k := by
  obtain ⟨w, ws, job, rest, -, hf, hp, rfl, rfl, rfl⟩ := dispatchNext_eq_some hd
  obtain ⟨-, hjob, -⟩ := drop_eq_cons (h.pending ▸ hp)
  have hsorted := h.sorted
  rw [hf] at hsorted ⊢
  refine ⟨by rw [h.last_key], by rw [h.last_key], hjob, rfl, ?_, by rw [h.last_key]⟩
  intro x hx
  rcases List.mem_cons.1 hx with rfl | hx
  · exact Nat.le_refl _
  · exact List.rel_of_pairwise_cons hsorted hx

theorem dispatchNext_of_shutdown (h : p.shutdownRequested = true) (now : Nat) :
    p.dispatchNext now = (none, p) := by
  simp [Pool.dispatchNext, h]

/-- After a stop request nothing is dispatched, and the request stays. -/
theorem Step.shutdown (hs : Step p o q) (h : p.shutdownRequested = true) :
    o = none ∧ q.shutdownRequested = true := by
  cases hs with
  | dispatchNext now => rw [dispatchNext_of_shutdown h now]; exact ⟨rfl, h⟩
  | complete k =>
    rcases complete_cases p k with hn | ⟨f, -, he⟩
    · rw [hn]; exact ⟨rfl, h⟩
    · rw [he]; exact ⟨rfl, h⟩
  | record s => rw [record_eq]; exact ⟨rfl, h⟩
  | requestShutdown => exact ⟨rfl, rfl⟩
  | takeInFlight => exact ⟨rfl, h⟩

theorem Run.inv {ds : List (Nat × Dispatch)} (hr : Run (make jobs m) ds p) : p.Inv jobs m := by
  induction hr with
  | refl => exact inv_make jobs m
  | tail _ hs ih => exact hs.inv ih

/-- The dispatches of a run are the jobs in order, under keys and positions `1, 2, …`. -/
theorem Run.dispatches {ds : List (Nat × Dispatch)} (hr : Run (make jobs m) ds p) :
    ds.length = p.dispatched ∧ ∀ j (hj : j < ds.length),
      ds[j].1 = j + 1 ∧ ds[j].2.taskIndex = j + 1 ∧ jobs[j]? = some ds[j].2.job := by
  induction hr with
  | refl => exact ⟨rfl, fun j hj => absurd hj (Nat.not_lt_zero j)⟩
  | @tail q r ds o hr hs ih =>
    obtain ⟨hlen, hds⟩ := ih
    rcases hs.label with ⟨rfl, hd⟩ | ⟨now, k, d, rfl, hd⟩
    · simpa [hd] using ⟨hlen, hds⟩
    · obtain ⟨hk, hi, hjob, -, -, hq⟩ := hr.inv.dispatchNext_some hd
      refine ⟨by simp [hlen, hq, hk], fun j hj => ?_⟩
      simp only [Option.toList_some, List.length_append, List.length_singleton] at hj
      rcases Nat.lt_or_ge j ds.length with hj' | hj'
      · simpa [List.getElem_append_left hj'] using hds j hj'
      · have hj2 : j = ds.length := by omega
        subst hj2
        simp [hk, hi, hlen, hjob]

/-- Once a stop was requested, no later operation dispatches. -/
theorem Run.shutdown {ds : List (Nat × Dispatch)} (hr : Run p ds q) (h : p.shutdownRequested = true) :
    ds = [] ∧ q.shutdownRequested = true := by
  induction hr with
  | refl => exact ⟨rfl, h⟩
  | tail _ hs ih =>
    obtain ⟨rfl, hq⟩ := ih
    obtain ⟨rfl, hr⟩ := hs.shutdown hq
    exact ⟨rfl, hr⟩


/-! ## The slot partition -/

theorem slotRange_nodup (m : Nat) : ((List.range m).map (· + 1)).Nodup :=
  List.nodup_range.map fun _ _ h => Nat.succ_injective h

theorem Inv.slots_nodup (h : p.Inv jobs m) : (p.freeSlots ++ p.workers).Nodup :=
  h.slots.nodup_iff.2 (slotRange_nodup m)

theorem Inv.workers_nodup (h : p.Inv jobs m) : p.workers.Nodup :=
  (List.nodup_append.1 h.slots_nodup).2.1

theorem Inv.free_not_working (h : p.Inv jobs m) {w : Nat} (hw : w ∈ p.freeSlots) :
    w ∉ p.workers :=
  fun hw' => (List.nodup_append.1 h.slots_nodup).2.2 w hw w hw' rfl

theorem Inv.mem_slots (h : p.Inv jobs m) (w : Nat) :
    w ∈ p.freeSlots ∨ w ∈ p.workers ↔ 0 < w ∧ w ≤ m := by
  rw [← List.mem_append, h.slots.mem_iff]
  simp only [List.mem_map, List.mem_range]
  constructor
  · rintro ⟨a, ha, rfl⟩; omega
  · intro hw; exact ⟨w - 1, by omega, by omega⟩

theorem Inv.length_slots (h : p.Inv jobs m) : p.freeSlots.length + p.inFlight.length = m := by
  simpa [workers] using h.slots.length_eq

theorem Inv.length_pending (h : p.Inv jobs m) : p.pending.length + p.dispatched = p.total := by
  rw [h.pending, h.total, List.length_drop]
  have := h.dispatched_le
  omega

/-- Whatever operations are applied to a fresh pool, the free slots and the slots of the jobs in
flight are `1 … m`, each once; the jobs left waiting are those after the dispatched ones; the
dispatches so far were the jobs in order, each under its position as key; the next dispatch
takes the lowest free slot; and once a stop is requested nothing is dispatched again. -/
theorem run_invariant {ds : List (Nat × Dispatch)} (hr : Run (make jobs m) ds p) :
    p.Inv jobs m ∧
    (p.workers.Nodup ∧ (∀ w ∈ p.freeSlots, w ∉ p.workers) ∧
      (∀ w, w ∈ p.freeSlots ∨ w ∈ p.workers ↔ 0 < w ∧ w ≤ m) ∧ p.inFlight.length ≤ m) ∧
    (p.pending = jobs.drop p.dispatched ∧ p.pending.length + p.dispatched = p.total) ∧
    (ds.length = p.dispatched ∧ ∀ j (hj : j < ds.length),
      ds[j].1 = j + 1 ∧ ds[j].2.taskIndex = j + 1 ∧ jobs[j]? = some ds[j].2.job) ∧
    (∀ now k d q, p.dispatchNext now = (some (k, d), q) →
      k = p.dispatched + 1 ∧ p.freeSlots.head? = some d.workerId ∧
        ∀ w ∈ p.freeSlots, d.workerId ≤ w) ∧
    (p.shutdownRequested = true → ∀ ds' q, Run p ds' q →
      ds' = [] ∧ ∀ now, (q.dispatchNext now).1 = none) := by
  have h := hr.inv
  refine ⟨h, ⟨h.workers_nodup, fun w hw => h.free_not_working hw, h.mem_slots,
    by have := h.length_slots; omega⟩, ⟨h.pending, h.length_pending⟩, hr.dispatches, ?_, ?_⟩
  · intro now k d q hd
    obtain ⟨hk, -, -, hhead, hlow, -⟩ := h.dispatchNext_some hd
    exact ⟨hk, hhead, hlow⟩
  · intro hs ds' q hr'
    obtain ⟨rfl, hq⟩ := hr'.shutdown hs
    exact ⟨rfl, fun now => by rw [dispatchNext_of_shutdown hq]⟩


/-- Three jobs on two slots: two dispatches, the first job completes, and the third job takes
its slot again. -/
theorem run_invariant_three_jobs :
    Run (make [.file "a", .file "b", .file "c"] 2)
      [(1, ⟨.file "a", 1, 1⟩), (2, ⟨.file "b", 2, 2⟩), (3, ⟨.file "c", 3, 1⟩)]
      (((((make [.file "a", .file "b", .file "c"] 2).dispatchNext).2.dispatchNext).2.complete 1).2.dispatchNext).2 ∧
    let jobs : List Job := [.file "a", .file "b", .file "c"]
    let ds : List (Nat × Dispatch) :=
      [(1, ⟨.file "a", 1, 1⟩), (2, ⟨.file "b", 2, 2⟩), (3, ⟨.file "c", 3, 1⟩)]
    let p := ((((make jobs 2).dispatchNext).2.dispatchNext).2.complete 1).2.dispatchNext.2
    p.Inv jobs 2 ∧
    (p.workers.Nodup ∧ (∀ w ∈ p.freeSlots, w ∉ p.workers) ∧
      (∀ w, w ∈ p.freeSlots ∨ w ∈ p.workers ↔ 0 < w ∧ w ≤ 2) ∧ p.inFlight.length ≤ 2) ∧
    (p.pending = jobs.drop p.dispatched ∧ p.pending.length + p.dispatched = p.total) ∧
    (ds.length = p.dispatched ∧ ∀ j (hj : j < ds.length),
      ds[j].1 = j + 1 ∧ ds[j].2.taskIndex = j + 1 ∧ jobs[j]? = some ds[j].2.job) ∧
    (∀ now k d q, p.dispatchNext now = (some (k, d), q) →
      k = p.dispatched + 1 ∧ p.freeSlots.head? = some d.workerId ∧
        ∀ w ∈ p.freeSlots, d.workerId ≤ w) ∧
    (p.shutdownRequested = true → ∀ ds' q, Run p ds' q →
      ds' = [] ∧ ∀ now, (q.dispatchNext now).1 = none) := by
  have hr : Run (make [.file "a", .file "b", .file "c"] 2)
      [(1, ⟨.file "a", 1, 1⟩), (2, ⟨.file "b", 2, 2⟩), (3, ⟨.file "c", 3, 1⟩)]
      (((((make [.file "a", .file "b", .file "c"] 2).dispatchNext).2.dispatchNext).2.complete 1).2.dispatchNext).2 :=
    ((((Run.refl _).tail (.dispatchNext _ 0)).tail (.dispatchNext _ 0)).tail (.complete _ 1)).tail
      (.dispatchNext _ 0)
  exact ⟨hr, run_invariant hr⟩

end Pool
end Fanout
