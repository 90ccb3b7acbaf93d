import Fanout.Proofs.Pool
import Fanout.Proofs.Steps
import Fanout.Process.Runner

/-!
# The books of a run

A run keeps three records of the jobs it has started: the pool's jobs in flight, the workers
still running (`live`), and the jobs whose workers finished and that wait for the coordinator
(`joined`). Every turn of a run keeps them in step (`World.Inv`): the running and the waiting
jobs are, between them, the jobs in flight, each once, and a running worker holds the dispatch
that the pool recorded for its key. With the pool's own invariant this bounds the jobs started
and not yet taken in by the number of slots, each on a slot of its own.

Steps that only touch the log, the queue, the clock, the stop handle or the phases of workers
keep the books as they are (`SameBooks`); the others are a dispatch, a worker that finishes,
and the coordinator taking a finished job in.
-/

namespace Fanout

namespace World

variable {ρ σ : Type}

/-- The jobs being worked on, each with its key and what its worker was given. -/
def started (w : World ρ σ) : List (Nat × Dispatch) := w.live.map fun e => (e.key, e.dispatch)

/-! ## Steps that keep the books -/

/-- A step that leaves the books of a run as they were: the pool, the finished jobs waiting for
the coordinator, and the jobs being worked on with what they were given. -/
structure SameBooks (w w' : World ρ σ) : Prop where
  pool : w'.pool = w.pool
  joined : w'.joined = w.joined
  started : w'.started = w.started

theorem SameBooks.refl (w : World ρ σ) : SameBooks w w := ⟨rfl, rfl, rfl⟩

theorem SameBooks.trans {w w' w'' : World ρ σ} (h : SameBooks w w') (h' : SameBooks w' w'') :
    SameBooks w w'' :=
  ⟨h'.pool.trans h.pool, h'.joined.trans h.joined, h'.started.trans h.started⟩

theorem sameBooks_note (plan : Plan) (w : World ρ σ) (e : Log.Event) :
    SameBooks w (w.note plan e) := ⟨rfl, rfl, rfl⟩

theorem Woken.sameBooks {w w' : World ρ σ} (h : Woken w w') : SameBooks w w' := by
  obtain ⟨q, c, l, rs, rfl, hl, -⟩ := h
  exact ⟨rfl, rfl, hl⟩

theorem sameBooks_askStop (w : World ρ σ) : SameBooks w w.askStop := by
  obtain ⟨hp, hj, hs⟩ := (woken_askStop w).sameBooks
  exact ⟨hp, hj, hs⟩

theorem sameBooks_forceStop (w : World ρ σ) : SameBooks w w.forceStop := by
  obtain ⟨hp, hj, hs⟩ := (woken_forceStop w).sameBooks
  exact ⟨hp, hj, hs⟩

theorem sameBooks_publish (plan : Plan) (w : World ρ σ) (o : Outcome) :
    SameBooks w (w.publish plan o) := by
  obtain ⟨lg, h⟩ := publish_eq plan w o
  rw [h]
  exact ⟨rfl, rfl, rfl⟩

theorem sameBooks_finishSinks (plan : Plan) (w : World ρ σ) (s : Summary) :
    SameBooks w (w.finishSinks plan s) := by
  obtain ⟨lg, h⟩ := finishSinks_eq plan w s
  rw [h]
  exact ⟨rfl, rfl, rfl⟩

/-- A stop request's turn moves no job. -/
theorem sameBooks_deliver (w : World ρ σ) (i : Nat) : SameBooks w (w.deliver i) := by
  rcases deliver_cases w i with he | ⟨r, -, -, ⟨-, he⟩ | ⟨-, he⟩⟩ | ⟨r, -, he⟩ <;> rw [he]
  · exact .refl w
  · refine SameBooks.trans ?_ (sameBooks_askStop _)
    exact ⟨rfl, rfl, rfl⟩
  · refine SameBooks.trans ?_ (sameBooks_forceStop _)
    exact ⟨rfl, rfl, rfl⟩
  · exact ⟨rfl, rfl, rfl⟩

theorem sameBooks_advance (w : World ρ σ) (t : Nat) : SameBooks w (w.advance t) := by
  obtain ⟨hp, hj, hs⟩ := (woken_advance w t).sameBooks
  exact ⟨hp, hj, hs⟩

/-! ## The books of a run -/

/-- A list of keyed entries whose keys are distinct holds the key `k` once, in any order. -/
theorem perm_cons_filter_key {α : Type} {l : List (Nat × α)} {k : Nat}
    (hn : (l.map (·.1)).Nodup) (hk : k ∈ l.map (·.1)) :
    (l.map (·.1)).Perm (k :: (l.filter (·.1 != k)).map (·.1)) := by
  obtain ⟨e, he, rfl⟩ := List.mem_map.1 hk
  exact (Pool.perm_cons_filter hn he).map (·.1)

/-- The books of a run agree: the pool keeps its own invariant; the jobs being worked on and the
finished jobs waiting for the coordinator are, between them, the jobs in flight, each once; and
every job being worked on was given the dispatch that the pool records for its key. -/
structure Inv (jobs : List Job) (m : Nat) (w : World ρ σ) : Prop where
  pool : w.pool.Inv jobs m
  keys : (w.started.map (·.1) ++ w.joined.map (·.1)).Perm (w.pool.inFlight.map (·.1))
  started : w.started.Sublist (w.pool.inFlight.map fun x => (x.1, x.2.dispatch))

variable {jobs : List Job} {m : Nat} {w w' : World ρ σ}

theorem Inv.of_sameBooks (h : w.Inv jobs m) (hs : SameBooks w w') : w'.Inv jobs m := by
  obtain ⟨hp, hj, hst⟩ := hs
  refine ⟨hp ▸ h.pool, ?_, ?_⟩
  · rw [hp, hj, hst]
    exact h.keys
  · rw [hp, hst]
    exact h.started

/-- A change of the pool that keeps its jobs in flight keeps the books. -/
theorem Inv.of_pool (h : w.Inv jobs m) (hp : w'.pool.Inv jobs m)
    (hin : w'.pool.inFlight = w.pool.inFlight) (hj : w'.joined = w.joined)
    (hs : w'.started = w.started) : w'.Inv jobs m := by
  refine ⟨hp, ?_, ?_⟩
  · rw [hin, hj, hs]
    exact h.keys
  · rw [hin, hs]
    exact h.started

theorem Inv.keys_nodup (h : w.Inv jobs m) : (w.started.map (·.1) ++ w.joined.map (·.1)).Nodup :=
  h.keys.nodup_iff.2 (h.pool.keys_sorted.imp Nat.ne_of_lt)

/-- A dispatch adds its job to those being worked on. -/
theorem Inv.dispatch (h : w.Inv jobs m) {now k : Nat} {d : Dispatch} {p : Pool}
    (hd : w.pool.dispatchNext now = (some (k, d), p)) (hp : w'.pool = p)
    (hs : w'.started = w.started ++ [(k, d)]) (hj : w'.joined = w.joined) : w'.Inv jobs m := by
  have hpool : p.Inv jobs m := by
    have := h.pool.dispatchNext now
    rwa [hd] at this
  obtain ⟨x, xs, job, rest, -, -, -, rfl, rfl, rfl⟩ := Pool.dispatchNext_eq_some hd
  refine ⟨hp ▸ hpool, ?_, ?_⟩
  · rw [hp, hs, hj]
    simp only [List.map_append, List.map_cons, List.map_nil, List.append_assoc,
      List.singleton_append]
    -- the new key joins both sides
    exact List.perm_middle.trans ((h.keys.cons _).trans (List.perm_append_singleton _ _).symm)
  · rw [hp, hs]
    simp only [List.map_append, List.map_cons, List.map_nil]
    exact h.started.append (List.Sublist.refl _)

/-- A worker that finishes moves its job from those being worked on to those waiting for the
coordinator. -/
theorem Inv.finish (h : w.Inv jobs m) {k : Nat} {r : Except String Outcome}
    (hk : k ∈ w.started.map (·.1)) (hp : w'.pool = w.pool)
    (hs : w'.started = w.started.filter (·.1 != k)) (hj : w'.joined = w.joined ++ [(k, r)]) :
    w'.Inv jobs m := by
  have hperm := perm_cons_filter_key (List.nodup_append.1 h.keys_nodup).1 hk
  refine ⟨hp ▸ h.pool, ?_, ?_⟩
  · rw [hp, hs, hj, List.map_append, ← List.append_assoc]
    refine (List.perm_append_singleton _ _).trans ?_
    exact ((List.Perm.append_right _ hperm).symm).trans h.keys
  · rw [hp, hs]
    exact (List.filter_sublist).trans h.started

/-- A key that some finished job waits under is a key in flight. -/
theorem Inv.joined_in_flight (h : w.Inv jobs m) {k : Nat} {r : Except String Outcome}
    (hk : (k, r) ∈ w.joined) : k ∈ w.pool.inFlight.map (·.1) :=
  h.keys.subset (List.mem_append_right _ (List.mem_map_of_mem (f := (·.1)) hk))

theorem complete_of_mem {p : Pool} {k : Nat} (hk : k ∈ p.inFlight.map (·.1)) :
    ∃ f, (k, f) ∈ p.inFlight ∧
      p.complete k = (some f, { p with
        inFlight := p.inFlight.filter (·.1 != k)
        freeSlots := insertSlot f.dispatch.workerId p.freeSlots }) := by
  rcases Pool.complete_cases p k with hn | hs
  · exfalso
    unfold Pool.complete at hn
    split at hn
    · cases hn
    · next hnone =>
        obtain ⟨x, hx, rfl⟩ := List.mem_map.1 hk
        exact absurd (List.find?_eq_none.1 hnone x hx) (by simp)
  · exact hs

/-- The coordinator takes the first finished job out of flight. -/
theorem Inv.complete (h : w.Inv jobs m) {k : Nat} {r : Except String Outcome}
    {rest : List (Nat × Except String Outcome)} (hj0 : w.joined = (k, r) :: rest)
    (hp : w'.pool = (w.pool.complete k).2) (hs : w'.started = w.started) (hj : w'.joined = rest) :
    w'.Inv jobs m := by
  have hk : k ∈ w.pool.inFlight.map (·.1) := h.joined_in_flight (hj0 ▸ List.mem_cons_self)
  obtain ⟨f, hf, hc⟩ := complete_of_mem hk
  have hpool : w'.pool.Inv jobs m := by
    rw [hp]
    exact h.pool.complete k
  have hnodup := h.keys_nodup
  rw [hj0] at hnodup
  have hkS : k ∉ w.started.map (·.1) := by
    intro hmem
    exact (List.nodup_append.1 hnodup).2.2 k hmem k List.mem_cons_self rfl
  refine ⟨hpool, ?_, ?_⟩
  · rw [hp, hc, hs, hj]
    have hI := perm_cons_filter_key (h.keys.nodup_iff.1 h.keys_nodup) hk
    have hkeys := h.keys
    rw [hj0] at hkeys
    exact List.Perm.cons_inv (List.perm_middle.symm.trans (hkeys.trans hI))
  · rw [hp, hc, hs]
    dsimp only
    have hsame : w.started.filter (·.1 != k) = w.started := Pool.filter_key_of_not_mem hkS
    have hmap : (w.pool.inFlight.filter (·.1 != k)).map (fun x => (x.1, x.2.dispatch)) =
        (w.pool.inFlight.map fun x => (x.1, x.2.dispatch)).filter (·.1 != k) := by
      rw [List.filter_map]
      rfl
    rw [hmap, ← hsame]
    exact h.started.filter _

/-! ## Every step of the coordinator keeps the books -/

theorem Inv.record (h : w.Inv jobs m) (s : Status) :
    ({ w with pool := w.pool.record s } : World ρ σ).Inv jobs m :=
  h.of_pool (h.pool.record s) (by rw [Pool.record_eq]) rfl rfl

theorem Inv.dispatchAll (plan : Plan) :
    ∀ (fuel : Nat) {w : World ρ σ}, w.Inv jobs m → (dispatchAll plan fuel w).Inv jobs m
  | 0, _, h => h
  | fuel + 1, w, h => by
    rcases dispatchAll_succ plan fuel w with ⟨-, he⟩ | ⟨key, d, p, -, -, hd, lg, he⟩ <;> rw [he]
    · exact h
    · apply Inv.dispatchAll plan fuel
      -- queueing the worker, the log and the start delay leave the books alone
      exact h.dispatch hd rfl (by simp [World.started]) rfl

theorem Inv.testBreaker (plan : Plan) (h : w.Inv jobs m) : (w.testBreaker plan).Inv jobs m := by
  rcases testBreaker_cases plan w with ⟨he, -⟩ | ⟨t, lg, -, -, -, hw⟩
  · rw [he]
    exact h
  · -- a trip stops dispatching, which keeps the jobs in flight
    refine Inv.of_sameBooks ?_ hw.sameBooks
    exact h.of_pool h.pool.requestShutdown rfl rfl rfl

theorem Inv.consolidate (plan : Plan) (h : w.Inv jobs m) {key : Nat} {r : Except String Outcome}
    {rest : List (Nat × Except String Outcome)} (hj : w.joined = (key, r) :: rest) :
    (({ w with joined := rest } : World ρ σ).consolidate plan key r).Inv jobs m := by
  obtain ⟨f, -, hc⟩ := complete_of_mem (h.joined_in_flight (hj ▸ List.mem_cons_self))
  have h1 : ({ w with joined := rest, pool := (w.pool.complete key).2 } : World ρ σ).Inv jobs m :=
    h.complete hj rfl rfl rfl
  rw [hc] at h1
  obtain ⟨o, lg, -, he⟩ := consolidate_of_complete plan { w with joined := rest } r hc
  -- counting the outcome, handing it to the sinks and testing the breaker keep the books
  rw [he]
  apply Inv.testBreaker
  refine Inv.of_sameBooks ?_ (sameBooks_publish _ _ _)
  exact (h1.record o.status).of_sameBooks ⟨rfl, rfl, rfl⟩

theorem Inv.noticeStop (plan : Plan) (h : w.Inv jobs m) : (w.noticeStop plan).Inv jobs m := by
  rcases noticeStop_cases plan w with ⟨-, he⟩ | ⟨-, -, lg, he⟩ <;> rw [he]
  · exact h
  · exact h.of_pool h.pool.requestShutdown rfl rfl rfl

/-- With no job being worked on or waiting for the coordinator, nothing is in flight. -/
theorem Inv.inFlight_eq_nil (h : w.Inv jobs m) (hl : w.live = []) (hj : w.joined = []) :
    w.pool.inFlight = [] := by
  have hk := h.keys
  simp only [World.started, hl, hj, List.map_nil, List.append_nil] at hk
  exact List.map_eq_nil_iff.1 hk.nil_eq.symm

theorem Inv.conclude (plan : Plan) (h : w.Inv jobs m) (hl : w.live = []) (hj : w.joined = []) :
    (w.conclude plan).Inv jobs m := by
  have hin := h.inFlight_eq_nil hl hj
  obtain ⟨s, lg, -, he⟩ := conclude_of_inFlight_nil plan w hin
  rw [he]
  exact h.of_pool h.pool.takeInFlight (by simp [Pool.takeInFlight, hin]) rfl rfl

theorem Inv.coordinate (plan : Plan) :
    ∀ (fuel : Nat) {w : World ρ σ}, w.Inv jobs m → (coordinate plan fuel w).Inv jobs m
  | 0, _, h => h
  | fuel + 1, w, h => by
    have h1 := Inv.dispatchAll plan ((w.noticeStop plan).pool.pending.length + 1) (h.noticeStop plan)
    rcases coordinate_succ plan fuel w _ rfl with ⟨hl, hj, he⟩ | ⟨key, r, rest, hj, he⟩ | he | he <;>
      rw [he]
    · exact h1.conclude plan hl hj
    · exact Inv.coordinate plan fuel (h1.consolidate plan hj)
    · exact Inv.coordinate plan fuel h1
    · exact h1.of_sameBooks ⟨rfl, rfl, rfl⟩

/-- Waking keeps the books, whether a finished job is taken in first or not. -/
theorem Inv.resume (plan : Plan) (jobFirst : Bool) (h : w.Inv jobs m) :
    (w.resume plan jobFirst).Inv jobs m := by
  rcases resume_cases plan jobFirst w with he | ⟨key, r, rest, hj, -, he⟩ <;> rw [he]
  · exact h
  · exact h.consolidate plan hj

/-! ## Every turn keeps the books -/

/-- Where a worker gets to is recorded for its job, which is being worked on. -/
theorem Inv.settle (h : w.Inv jobs m) {key : Nat} (hk : key ∈ w.started.map (·.1))
    (p : Progress σ) : (w.settle key p).Inv jobs m := by
  rcases settle_cases w key p with ⟨s, wait, -, he⟩ | ⟨r, hw⟩
  · rw [he]
    refine h.of_sameBooks ⟨rfl, rfl, started_map_phase (fun x => ?_) w.live⟩
    split <;> exact ⟨rfl, rfl⟩
  · -- the job moves from the workers to those waiting for the coordinator
    have hfilter : (w.live.filter (·.key != key)).map (fun e => (e.key, e.dispatch)) =
        w.started.filter (·.1 != key) := by
      rw [World.started, List.filter_map]
      rfl
    refine Inv.of_sameBooks ?_ hw.sameBooks
    exact h.finish hk rfl hfilter rfl

/-- A worker's turn runs its job, whatever the runner does. -/
theorem Inv.work (runner : Runner ρ σ) (h : w.Inv jobs m) (key : Nat) :
    (w.work runner key).Inv jobs m := by
  rcases work_cases runner w key with he | ⟨hk, sh, lg, ex, ru, pk, p, he⟩ <;> rw [he]
  · exact h
  · refine Inv.settle ?_ ?_ p
    · exact h.of_sameBooks ⟨rfl, rfl, rfl⟩
    · simpa [World.started, List.map_map] using hk

/-- One turn of a run keeps the books, whoever takes it. -/
theorem Inv.turn {plan : Plan} {runner : Runner ρ σ} {limit : Nat} {jobFirst : Bool}
    (h : w.Inv jobs m) (ht : w.turn plan runner limit jobFirst = some w') : w'.Inv jobs m := by
  -- taking the first actor off the queue leaves the books alone
  have h0 : ∀ rest, ({ w with queue := rest } : World ρ σ).Inv jobs m :=
    fun _ => h.of_sameBooks ⟨rfl, rfl, rfl⟩
  rcases turn_cases ht with ⟨rest, -, -, rfl⟩ | ⟨rest, -, -, rfl⟩ | ⟨k, rest, -, rfl⟩ |
    ⟨i, rest, -, rfl⟩ | ⟨-, t, -, -, rfl⟩
  · exact h0 rest
  · exact Inv.coordinate plan _ ((h0 rest).resume plan jobFirst)
  · exact Inv.work runner (h0 rest) k
  · exact (h0 rest).of_sameBooks (sameBooks_deliver _ _)
  · exact h.of_sameBooks (sameBooks_advance _ _)

/-! ## Runs -/

/-- The worlds a run passes through from `w₀`, one turn at a time, the coordinator taking a
finished job first or not at each of its turns. -/
inductive Turns (plan : Plan) (runner : Runner ρ σ) (limit : Nat) (w₀ : World ρ σ) :
    World ρ σ → Prop
  | here : Turns plan runner limit w₀ w₀
  | turn {w w' : World ρ σ} {jobFirst : Bool} : Turns plan runner limit w₀ w →
      w.turn plan runner limit jobFirst = some w' → Turns plan runner limit w₀ w'

/-- Taking turns until the run ends passes only through worlds of the run. -/
theorem Turns.steps {plan : Plan} {runner : Runner ρ σ} {limit : Nat} {jobFirst : Bool}
    {w₀ : World ρ σ} :
    ∀ (fuel : Nat) {w : World ρ σ}, Turns plan runner limit w₀ w →
      Turns plan runner limit w₀ (w.steps plan runner limit jobFirst fuel)
  | 0, _, h => h
  | fuel + 1, w, h => by
    unfold World.steps
    split
    · exact h
    · split
      · next w2 ht => exact Turns.steps fuel (h.turn ht)
      · exact h

theorem Inv.turns {plan : Plan} {runner : Runner ρ σ} {limit : Nat} {w₀ : World ρ σ}
    (h₀ : w₀.Inv jobs m) (hw : Turns plan runner limit w₀ w) : w.Inv jobs m := by
  induction hw with
  | here => exact h₀
  | turn _ ht ih => exact ih.turn ht

/-- A run starts with its books in order: nothing in flight, nothing being worked on. -/
theorem inv_launchWorld (cfg : Config) (runner : Runner ρ σ) (shared : ρ) (sinks : List Sink)
    (jobs : List Job) (requests : List (Nat × Request)) (checked : List Log.Event) :
    (launchWorld cfg runner shared sinks jobs requests checked).Inv jobs cfg.limits.maxWorkers := by
  unfold launchWorld
  refine Inv.of_sameBooks ?_ (sameBooks_note _ _ _)
  exact ⟨Pool.inv_make _ _, by simp [World.started, Pool.make], by simp [World.started]⟩

end World

/-- Numbers are written apart: reading the decimal digits back gives the number. -/
theorem toString_nat_injective : Function.Injective (toString : Nat → String) := by
  intro a b hab
  have hrepr : a.repr = b.repr := hab
  have := congrArg (fun s : String => Nat.ofDigitChars 10 s.toList 0) hrepr
  simpa only [Nat.toList_repr, Nat.ofDigitChars_ten_toDigits] using this

/-- With isolated workspaces, each slot has a directory of its own. -/
theorem workdirOf_injective (e : Execution) (home : String) (pid : Nat)
    (h : e.workspaceIsolation = true) : Function.Injective (workdirOf e home pid) := by
  intro a b hab
  simp only [workdirOf, h, if_true, Host.joinPath] at hab
  apply toString_nat_injective
  split at hab
  · simpa [String.append_assoc] using hab
  · simpa [String.append_assoc] using hab

namespace World

variable {ρ σ : Type}

/-- At every point of a run, whatever its jobs, runner, stop requests and the order in which
jobs finish: the jobs whose workers have started and whose outcomes the coordinator has not
taken in yet are the jobs in flight, each once, and a worker still running holds the dispatch
recorded for its key; there are at most `maxWorkers` of them, on distinct slots from 1 to
`maxWorkers`; so with isolated workspaces the running workers have distinct directories. -/
theorem slots_distinct_and_bounded (cfg : Config) (runner : Runner ρ σ) (shared : ρ)
    (sinks : List Sink) (jobs : List Job) (requests : List (Nat × Request))
    (checked : List Log.Event) (plan : Plan) (limit : Nat) {w : World ρ σ}
    (hw : Turns plan runner limit (launchWorld cfg runner shared sinks jobs requests checked) w) :
    (w.live.map (·.key) ++ w.joined.map (·.1)).Perm (w.pool.inFlight.map (·.1)) ∧
    (w.live.map fun e => (e.key, e.dispatch)).Sublist
      (w.pool.inFlight.map fun x => (x.1, x.2.dispatch)) ∧
    w.live.length + w.joined.length ≤ cfg.limits.maxWorkers ∧
    (w.pool.inFlight.map (·.2.dispatch.workerId)).Nodup ∧
    (∀ x ∈ w.pool.inFlight,
      0 < x.2.dispatch.workerId ∧ x.2.dispatch.workerId ≤ cfg.limits.maxWorkers) ∧
    (cfg.execution.workspaceIsolation = true → ∀ home pid,
      (w.live.map fun e => workdirOf cfg.execution home pid e.dispatch.workerId).Nodup) := by
  have h := (inv_launchWorld cfg runner shared sinks jobs requests checked).turns hw
  have hkeys : (w.live.map (·.key) ++ w.joined.map (·.1)).Perm (w.pool.inFlight.map (·.1)) := by
    simpa [World.started, List.map_map, Function.comp_def] using h.keys
  -- the slots of the running workers are among the slots in flight, which are distinct
  have hslots : (w.live.map (·.dispatch.workerId)).Sublist (w.pool.workers) := by
    have := h.started.map (·.2.workerId)
    simpa [World.started, Pool.workers, List.map_map, Function.comp_def] using this
  have hlen : w.live.length + w.joined.length = w.pool.inFlight.length := by
    simpa using hkeys.length_eq
  refine ⟨hkeys, h.started, ?_, h.pool.workers_nodup, fun x hx => ?_, fun hiso home pid => ?_⟩
  · have := h.pool.length_slots
    omega
  · have hw' : x.2.dispatch.workerId ∈ w.pool.workers := List.mem_map_of_mem hx
    exact (h.pool.mem_slots _).1 (.inr hw')
  · have hnodup := (hslots.nodup h.pool.workers_nodup).map (workdirOf_injective _ home pid hiso)
    simpa [List.map_map, Function.comp_def] using hnodup

/-- Three jobs on two isolated slots, at the end of their run, with a runner whose jobs finish
at once. -/
theorem slots_distinct_and_bounded_three_jobs :
    let cfg : Config := { limits := { maxWorkers := 2 }, execution := { workspaceIsolation := true } }
    let runner : Runner Unit Unit :=
      { name := "echo"
        start := fun s d now _ =>
          { progress := .finished ((Outcome.started d.job d.taskIndex d.workerId now).close .success "" now),
            shared := s }
        resume := fun s _ _ _ => { progress := .crashed "no state", shared := s } }
    let jobs : List Job := [.file "a", .file "b", .file "c"]
    let w := launchRun cfg runner () [] jobs [] 100 []
    (w.live.map (·.key) ++ w.joined.map (·.1)).Perm (w.pool.inFlight.map (·.1)) ∧
    (w.live.map fun e => (e.key, e.dispatch)).Sublist
      (w.pool.inFlight.map fun x => (x.1, x.2.dispatch)) ∧
    w.live.length + w.joined.length ≤ cfg.limits.maxWorkers ∧
    (w.pool.inFlight.map (·.2.dispatch.workerId)).Nodup ∧
    (∀ x ∈ w.pool.inFlight,
      0 < x.2.dispatch.workerId ∧ x.2.dispatch.workerId ≤ cfg.limits.maxWorkers) ∧
    (cfg.execution.workspaceIsolation = true → ∀ home pid,
      (w.live.map fun e => workdirOf cfg.execution home pid e.dispatch.workerId).Nodup) :=
  slots_distinct_and_bounded _ _ () [] _ [] [] _ 100 (Turns.steps _ .here)

end World

end Fanout
