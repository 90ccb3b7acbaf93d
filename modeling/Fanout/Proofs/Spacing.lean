import Fanout.Proofs.Books

/-!
# Dispatches spaced by the start delay

A run may hold dispatches apart by a start delay, of `spacing` milliseconds in the coordinator's
plan: each dispatch sets the next dispatch time `spacing` later, and the coordinator dispatches
only once the clock has reached it. This module shows what that does to a run:

* with a delay, every two dispatches of a run are at least the delay apart, wherever jobs
  finish and stop requests come (`dispatch_spacing`);
* the run's first turn is the coordinator's, and it dispatches at once, at time zero;
* with no delay, the next dispatch time is never set, so each round of dispatches goes on until
  no slot is free, no job waits, or a stop was asked for;
* a round of dispatches leaves nothing due, so inside the coordinator's loop a finished job
  never ties with a due dispatch or a stop request (`otherReady_after_round`): the order the
  coordinator takes them in matters only when it wakes.

The argument says once what a step can do to the dispatches (`Paces`): the coordinator's steps
either dispatch nothing and keep the next dispatch time, or dispatch at a time the delay no
longer holds back and set it anew; other steps only move the clock forward. The instants of a
run's dispatches are collected turn by turn (`Dispatches`).
-/

namespace Fanout

namespace World

variable {ρ σ : Type}

/-! ## Steps that leave the dispatches alone -/

/-- What the start delay reads of a world: the clock, the next dispatch time and the number of
jobs dispatched. -/
def pace (w : World ρ σ) : Nat × Option Nat × Nat := (w.now, w.nextDispatch, w.pool.dispatched)

theorem pace_foldl {α : Type} {f : World ρ σ → α → World ρ σ} (hf : ∀ w a, (f w a).pace = w.pace) :
    ∀ (xs : List α) (w : World ρ σ), (xs.foldl f w).pace = w.pace
  | [], _ => rfl
  | a :: xs, w => (pace_foldl hf xs (f w a)).trans (hf w a)

/-- Waking waiters leaves the dispatches alone. -/
theorem Woken.pace {w w' : World ρ σ} (h : Woken w w') : w'.pace = w.pace := by
  obtain ⟨q, c, l, rs, rfl, -⟩ := h
  rfl

theorem pace_askStop (w : World ρ σ) : w.askStop.pace = w.pace := (woken_askStop w).pace

theorem pace_forceStop (w : World ρ σ) : w.forceStop.pace = w.pace := (woken_forceStop w).pace

theorem pace_publish (plan : Plan) (w : World ρ σ) (o : Outcome) :
    (w.publish plan o).pace = w.pace := by
  obtain ⟨lg, h⟩ := publish_eq plan w o
  rw [h]
  rfl

theorem pace_finishSinks (plan : Plan) (w : World ρ σ) (s : Summary) :
    (w.finishSinks plan s).pace = w.pace := by
  obtain ⟨lg, h⟩ := finishSinks_eq plan w s
  rw [h]
  rfl

theorem pace_testBreaker (plan : Plan) (w : World ρ σ) : (w.testBreaker plan).pace = w.pace := by
  rcases testBreaker_cases plan w with ⟨he, -⟩ | ⟨t, lg, -, -, -, hw⟩
  · rw [he]
  · exact hw.pace

/-- Taking a job out of flight counts no dispatch. -/
theorem dispatched_complete (p : Pool) (k : Nat) : (p.complete k).2.dispatched = p.dispatched := by
  rcases Pool.complete_cases p k with h | ⟨f, -, h⟩ <;> rw [h]

theorem pace_consolidate (plan : Plan) (w : World ρ σ) (key : Nat) (r : Except String Outcome) :
    (w.consolidate plan key r).pace = w.pace := by
  rcases consolidate_cases plan w key r with ⟨p, lg, hc, he⟩ | ⟨f, p, o, lg, hc, -, he⟩ <;>
    rw [he]
  · have hd : p.dispatched = w.pool.dispatched := by simpa [hc] using dispatched_complete w.pool key
    simp [pace, hd]
  · have hd : p.dispatched = w.pool.dispatched := by simpa [hc] using dispatched_complete w.pool key
    rw [pace_testBreaker, pace_publish]
    simp [pace, Pool.record_eq, hd]

theorem pace_noticeStop (plan : Plan) (w : World ρ σ) : (w.noticeStop plan).pace = w.pace := by
  rcases noticeStop_cases plan w with ⟨-, he⟩ | ⟨-, -, lg, he⟩ <;> rw [he]
  rfl

theorem pace_conclude (plan : Plan) (w : World ρ σ) : (w.conclude plan).pace = w.pace := by
  unfold conclude
  dsimp only
  rw [show ∀ v : World ρ σ, ∀ s, ({ v with result := some s } : World ρ σ).pace = v.pace
    from fun _ _ => rfl, pace_finishSinks]
  refine (pace_foldl (fun v entry => ?_) _ _).trans rfl
  rw [pace_publish]
  simp [pace, note, emit, Pool.record_eq]

theorem pace_resume (plan : Plan) (jobFirst : Bool) (w : World ρ σ) :
    (w.resume plan jobFirst).pace = w.pace := by
  rcases resume_cases plan jobFirst w with he | ⟨key, r, rest, -, -, he⟩ <;> rw [he]
  exact pace_consolidate _ _ _ _

theorem pace_settle (w : World ρ σ) (key : Nat) (p : Progress σ) : (w.settle key p).pace = w.pace := by
  rcases settle_cases w key p with ⟨s, wait, -, he⟩ | ⟨r, hw⟩
  · rw [he]
    rfl
  · exact hw.pace

theorem pace_work (runner : Runner ρ σ) (w : World ρ σ) (key : Nat) :
    (w.work runner key).pace = w.pace := by
  rcases work_cases runner w key with he | ⟨-, sh, lg, ex, ru, pk, p, he⟩ <;> rw [he]
  exact pace_settle _ key p

theorem pace_deliver (w : World ρ σ) (i : Nat) : (w.deliver i).pace = w.pace := by
  rcases deliver_cases w i with he | ⟨r, -, -, ⟨-, he⟩ | ⟨-, he⟩⟩ | ⟨r, -, he⟩ <;> rw [he]
  · exact pace_askStop _
  · exact pace_forceStop _
  · rfl

/-- Moving the clock moves only the clock. -/
theorem pace_advance (w : World ρ σ) (t : Nat) :
    (w.advance t).pace = (t, w.nextDispatch, w.pool.dispatched) :=
  (woken_advance w t).pace

/-! ## What a step can do to the dispatches -/

/-- What the coordinator's steps can do to the dispatches under a start delay of `spacing`
milliseconds, with the clock standing still: dispatch nothing and keep the next dispatch time;
or dispatch at a time the delay does not hold back, and then set the next dispatch time
`spacing` later, one job only, when there is a delay. -/
def Paces (spacing : Nat) (w w' : World ρ σ) : Prop :=
  w'.now = w.now ∧
  ((w'.pool.dispatched = w.pool.dispatched ∧ w'.nextDispatch = w.nextDispatch) ∨
   (w.pool.dispatched < w'.pool.dispatched ∧ w.heldBack = false ∧
    w'.nextDispatch = (if spacing > 0 then some (w.now + spacing) else w.nextDispatch) ∧
    (spacing > 0 → w'.pool.dispatched = w.pool.dispatched + 1)))

variable {spacing : Nat} {w w' w₁ w₂ : World ρ σ}

theorem Paces.refl (spacing : Nat) (w : World ρ σ) : Paces spacing w w := ⟨rfl, .inl ⟨rfl, rfl⟩⟩

theorem Paces.of_pace (h : w₁.pace = w.pace) : Paces spacing w w₁ := by
  simp only [pace, Prod.mk.injEq] at h
  exact ⟨h.1, .inl ⟨h.2.2, h.2.1⟩⟩

/-- Two rounds compose into one: after a dispatch under a delay, the delay holds the next one
back until the clock moves. -/
theorem Paces.trans (h₁ : Paces spacing w w₁) (h₂ : Paces spacing w₁ w₂) : Paces spacing w w₂ := by
  obtain ⟨hn₁, hk₁ | ⟨hd₁, hb₁, hx₁, hs₁⟩⟩ := h₁ <;> obtain ⟨hn₂, hk₂ | ⟨hd₂, hb₂, hx₂, hs₂⟩⟩ := h₂
  · exact ⟨hn₂.trans hn₁, .inl ⟨hk₂.1.trans hk₁.1, hk₂.2.trans hk₁.2⟩⟩
  · -- the world in between has the clock and the next dispatch time of the first
    have hb : w₁.heldBack = w.heldBack := by simp only [heldBack, hn₁, hk₁.2]
    refine ⟨hn₂.trans hn₁, .inr ⟨by omega, hb ▸ hb₂, ?_, fun hs => by have := hs₂ hs; omega⟩⟩
    rw [hx₂, hn₁, hk₁.2]
  · exact ⟨hn₂.trans hn₁, .inr ⟨by omega, hb₁, hk₂.2.trans hx₁, fun hs => by have := hs₁ hs; omega⟩⟩
  · by_cases hs : spacing > 0
    · -- the first dispatch set a time after the clock, so the second could not go
      simp only [hs, if_true] at hx₁
      simp [heldBack, hx₁, hn₁, hs] at hb₂
    · simp only [hs, if_false] at hx₁ hx₂
      exact ⟨hn₂.trans hn₁, .inr ⟨by omega, hb₁, by rw [hx₂, hx₁, if_neg hs], fun h => absurd h hs⟩⟩

/-- The first dispatch of a round: with a slot free, a job waiting and no delay holding it
back, the round dispatches one job at the current time and sets the next dispatch time. -/
theorem dispatchAll_succ_of_go (plan : Plan) (fuel : Nat) (hc : w.pool.canDispatch = true)
    (hb : w.heldBack = false) :
    ∃ w' : World ρ σ, w'.pool.dispatched = w.pool.dispatched + 1 ∧
      w'.pool.pending.length + 1 = w.pool.pending.length ∧
      w'.nextDispatch = (if plan.spacing > 0 then some (w.now + plan.spacing) else w.nextDispatch) ∧
      w'.now = w.now ∧ dispatchAll plan (fuel + 1) w = dispatchAll plan fuel w' := by
  rcases dispatchAll_succ plan fuel w with ⟨hstop, -⟩ | ⟨key, d, p, -, -, hd, lg, he⟩
  · simp [hc, hb] at hstop
  · -- the pool counts the dispatch and takes the job off its queue
    obtain ⟨_, _, job, rest, -, -, hp, -, -, rfl⟩ := Pool.dispatchNext_eq_some hd
    refine ⟨_, ?_, ?_, ?_, ?_, he⟩
    · rfl
    · simp [hp]
    · rfl
    · rfl

/-- A round ends at once when no job can be dispatched or the delay holds the next one back. -/
theorem dispatchAll_succ_of_stop (plan : Plan) (fuel : Nat)
    (h : w.pool.canDispatch = false ∨ w.heldBack = true) : dispatchAll plan (fuel + 1) w = w := by
  rcases dispatchAll_succ plan fuel w with ⟨-, he⟩ | ⟨key, d, p, hc, hb, -⟩
  · exact he
  · rcases h with h | h <;> simp_all

/-- A round of dispatches leaves the stop handle alone. -/
theorem handle_dispatchAll (plan : Plan) :
    ∀ (fuel : Nat) (w : World ρ σ), (dispatchAll plan fuel w).handle = w.handle
  | 0, _ => rfl
  | fuel + 1, w => by
    rcases dispatchAll_succ plan fuel w with ⟨-, he⟩ | ⟨key, d, p, -, -, -, lg, he⟩ <;> rw [he]
    exact handle_dispatchAll plan fuel _

/-- A round of dispatches with fuel for every waiting job ends where no job can be dispatched or
the start delay holds the next one back. -/
theorem dispatchAll_done (plan : Plan) :
    ∀ (fuel : Nat) (w : World ρ σ), w.pool.pending.length < fuel →
      (dispatchAll plan fuel w).pool.canDispatch = false ∨ (dispatchAll plan fuel w).heldBack = true
  | 0, _, hf => absurd hf (Nat.not_lt_zero _)
  | fuel + 1, w, hf => by
    rcases dispatchAll_succ plan fuel w with ⟨hstop, he⟩ | ⟨key, d, p, hc, hb, -, -, -⟩
    · rw [he]
      exact hstop
    · -- each dispatch takes a job off the queue, so the fuel lasts
      obtain ⟨w', -, hp, -, -, he⟩ := dispatchAll_succ_of_go plan fuel hc hb
      rw [he]
      exact dispatchAll_done plan fuel w' (by omega)

/-- Where no job can be dispatched or the delay holds the next one back, no dispatch is due. -/
theorem dispatchDue_eq_false (h : w.pool.canDispatch = false ∨ w.heldBack = true) :
    w.dispatchDue = false := by
  unfold dispatchDue delayed
  rcases h with h | h
  · simp [h]
  · unfold heldBack at h
    split at h
    · next t ht => split <;> simp_all
    · cases h

/-- Inside the coordinator's loop a finished job never ties with anything else: each round takes
note of a stop request and dispatches what is due before it looks at the finished jobs, so by
then neither is ready. Which comes first matters only when the coordinator wakes (`resume`). -/
theorem otherReady_after_round (plan : Plan) (w : World ρ σ) :
    (dispatchAll plan ((w.noticeStop plan).pool.pending.length + 1)
      (w.noticeStop plan)).otherReady = false := by
  have hdone := dispatchAll_done plan _ (w.noticeStop plan) (Nat.lt_succ_self _)
  have hnoted : (w.noticeStop plan).handle.requested = false ∨
      (w.noticeStop plan).pool.shutdownRequested = true := by
    rcases noticeStop_cases plan w with ⟨hg, he⟩ | ⟨-, -, lg, he⟩ <;> rw [he]
    · exact hg
    · exact .inr rfl
  simp only [otherReady, dispatchDue_eq_false hdone, Bool.or_false, handle_dispatchAll]
  rcases hnoted with h | h
  · simp [h]
  · -- a pool told to stop dispatches nothing more
    have hc : (w.noticeStop plan).pool.canDispatch = false := by simp [Pool.canDispatch, h]
    rw [dispatchAll_succ_of_stop plan _ (.inl hc)]
    simp [h]

/-- One dispatch at a time the delay does not hold back. -/
theorem paces_dispatchAll (plan : Plan) :
    ∀ (fuel : Nat) (w : World ρ σ), Paces plan.spacing w (dispatchAll plan fuel w)
  | 0, w => .refl _ w
  | fuel + 1, w => by
    by_cases hgo : w.pool.canDispatch = true ∧ w.heldBack = false
    · obtain ⟨w', hd, -, hx, hn, he⟩ := dispatchAll_succ_of_go plan fuel hgo.1 hgo.2
      rw [he]
      refine Paces.trans ⟨hn, .inr ⟨?_, hgo.2, hx, fun _ => hd⟩⟩ (paces_dispatchAll plan fuel w')
      omega
    · have hstop : w.pool.canDispatch = false ∨ w.heldBack = true := by
        cases hc : w.pool.canDispatch <;> cases hb : w.heldBack <;> simp_all
      rw [dispatchAll_succ_of_stop plan fuel hstop]
      exact .refl _ w

/-- How the coordinator's loop goes on after a round of dispatches: it ends the run, takes in a
finished job, looks again or waits, and none of that moves the dispatches. -/
theorem coordinate_succ_cases (plan : Plan) (fuel : Nat) (w : World ρ σ) :
    ∃ u : World ρ σ,
      u.pace = (dispatchAll plan ((w.noticeStop plan).pool.pending.length + 1) (w.noticeStop plan)).pace ∧
      (coordinate plan (fuel + 1) w = u ∨ coordinate plan (fuel + 1) w = coordinate plan fuel u) := by
  rcases coordinate_succ plan fuel w _ rfl with ⟨-, -, he⟩ | ⟨key, r, rest, -, he⟩ | he | he
  · refine ⟨_, ?_, .inl he⟩
    exact pace_conclude _ _
  · refine ⟨_, ?_, .inr he⟩
    exact pace_consolidate _ _ _ _
  · exact ⟨_, rfl, .inr he⟩
  · -- waiting changes neither the clock, the next dispatch time nor the dispatches
    refine ⟨_, ?_, .inl he⟩
    rfl

/-- A coordinator's turn is rounds of dispatches, with nothing in between that moves them. -/
theorem paces_coordinate (plan : Plan) :
    ∀ (fuel : Nat) (w : World ρ σ), Paces plan.spacing w (coordinate plan fuel w)
  | 0, w => .refl _ w
  | fuel + 1, w => by
    have hround : Paces plan.spacing w
        (dispatchAll plan ((w.noticeStop plan).pool.pending.length + 1) (w.noticeStop plan)) :=
      (Paces.of_pace (pace_noticeStop plan w)).trans (paces_dispatchAll plan _ _)
    obtain ⟨u, hu, he | he⟩ := coordinate_succ_cases plan fuel w <;> rw [he]
    · exact hround.trans (.of_pace hu)
    · exact hround.trans ((Paces.of_pace hu).trans (paces_coordinate plan fuel u))

/-- A turn is a coordinator's rounds, or a step that dispatches nothing, keeps the next dispatch
time and moves the clock only forward. -/
theorem turn_paces {plan : Plan} {runner : Runner ρ σ} {limit : Nat} {jobFirst : Bool}
    {w w' : World ρ σ} (h : w.turn plan runner limit jobFirst = some w') :
    Paces plan.spacing w w' ∨
      (w'.pool.dispatched = w.pool.dispatched ∧ w'.nextDispatch = w.nextDispatch ∧ w.now ≤ w'.now) := by
  rcases turn_cases h with ⟨rest, -, -, rfl⟩ | ⟨rest, -, -, rfl⟩ | ⟨k, rest, -, rfl⟩ |
    ⟨i, rest, -, rfl⟩ | ⟨-, t, -, -, rfl⟩
  · exact .inl (.of_pace rfl)
  · refine .inl (Paces.trans ?_ (paces_coordinate _ _ _))
    exact .of_pace (pace_resume _ _ _)
  · exact .inl (.of_pace (pace_work _ _ _))
  · exact .inl (.of_pace (pace_deliver _ _))
  · -- the clock moves to the first deadline, never back
    have ha := pace_advance w (max t w.now)
    simp only [pace, Prod.mk.injEq] at ha
    exact .inr ⟨ha.2.2, ha.2.1, by rw [ha.1]; exact Nat.le_max_right _ _⟩

theorem Paces.dispatched_le (h : Paces spacing w w') : w.pool.dispatched ≤ w'.pool.dispatched := by
  obtain ⟨-, ⟨hd, -⟩ | ⟨hd, -⟩⟩ := h <;> omega

theorem turn_dispatched_le {plan : Plan} {runner : Runner ρ σ} {limit : Nat} {jobFirst : Bool}
    {w w' : World ρ σ} (h : w.turn plan runner limit jobFirst = some w') :
    w.pool.dispatched ≤ w'.pool.dispatched := by
  rcases turn_paces h with hp | ⟨hd, -⟩
  · exact hp.dispatched_le
  · exact hd.ge

/-! ## The first turn -/

/-- Unless a stop was asked for, a coordinator's turn with a slot free, a job waiting and no
delay holding it back dispatches in its first round, without moving the clock. -/
theorem coordinate_dispatches (plan : Plan) (fuel : Nat) (hr : w.handle.requested = false)
    (hc : w.pool.canDispatch = true) (hb : w.heldBack = false) :
    w.pool.dispatched < (coordinate plan (fuel + 1) w).pool.dispatched ∧
      (coordinate plan (fuel + 1) w).now = w.now := by
  have hn : w.noticeStop plan = w := by
    rcases noticeStop_cases plan w with ⟨-, hn⟩ | ⟨hreq, -⟩
    · exact hn
    · simp [hr] at hreq
  obtain ⟨w', hd, -, -, hnow, hround⟩ := dispatchAll_succ_of_go plan w.pool.pending.length hc hb
  -- from the first dispatch on, the turn only goes on as `Paces` allows
  have hrest : Paces plan.spacing w' (coordinate plan (fuel + 1) w) := by
    obtain ⟨u, hu, he | he⟩ := coordinate_succ_cases plan fuel w <;>
      rw [hn, hround] at hu <;> rw [he]
    · exact (paces_dispatchAll plan _ w').trans (.of_pace hu)
    · exact ((paces_dispatchAll plan _ w').trans (.of_pace hu)).trans (paces_coordinate plan fuel u)
  exact ⟨by have := hrest.dispatched_le; omega, hrest.1.trans hnow⟩

/-- A run starts with the coordinator's turn, and with a job and a worker it dispatches at once,
at time zero: no stop can have been asked for before it. -/
theorem launchWorld_turn_dispatches (cfg : Config) (runner : Runner ρ σ) (shared : ρ)
    (sinks : List Sink) (jobs : List Job) (requests : List (Nat × Request))
    (checked : List Log.Event) (limit : Nat) (jobFirst : Bool) (hj : jobs ≠ [])
    (hm : 0 < cfg.limits.maxWorkers) :
    ∃ w₁, (launchWorld cfg runner shared sinks jobs requests checked).turn
        (launchPlan cfg runner sinks jobs) runner limit jobFirst = some w₁ ∧
      0 < w₁.pool.dispatched ∧ w₁.now = 0 := by
  let w₀ := launchWorld cfg runner shared sinks jobs requests checked
  let v : World ρ σ := { w₀ with queue := w₀.queue.tail }
  -- the start world: the coordinator first, nothing finished or running, a fresh pool
  have hq : w₀.queue = .coordinator :: w₀.queue.tail := rfl
  have hv : v.resume (launchPlan cfg runner sinks jobs) jobFirst = v := rfl
  have hfuel : w₀.joined.length + w₀.live.length + w₀.pool.pending.length + 4 =
      jobs.length + 3 + 1 := by
    show [].length + [].length + jobs.length + 4 = _
    simp
  have hc : v.pool.canDispatch = true := by
    show (Pool.make jobs cfg.limits.maxWorkers).canDispatch = true
    simpa [Pool.canDispatch, Pool.make, hj] using Nat.pos_iff_ne_zero.1 hm
  obtain ⟨hd, hnow⟩ := coordinate_dispatches (launchPlan cfg runner sinks jobs) (jobs.length + 3)
    (show v.handle.requested = false from rfl) hc rfl
  rw [turn_coordinator hq rfl, hv, hfuel]
  exact ⟨_, rfl, hd, hnow⟩

/-! ## The dispatches of a run -/

/-- The instants of the dispatches of a run from `w₀`, one for each job dispatched, in the order
of the dispatches: a turn dispatches at the time it is taken. -/
inductive Dispatches (plan : Plan) (runner : Runner ρ σ) (limit : Nat) (w₀ : World ρ σ) :
    World ρ σ → List Nat → Prop
  | here : Dispatches plan runner limit w₀ w₀ []
  | turn {w w' : World ρ σ} {ts : List Nat} {jobFirst : Bool} :
      Dispatches plan runner limit w₀ w ts → w.turn plan runner limit jobFirst = some w' →
      Dispatches plan runner limit w₀ w'
        (ts ++ List.replicate (w'.pool.dispatched - w.pool.dispatched) w.now)

section Dispatches

variable {plan : Plan} {runner : Runner ρ σ} {limit : Nat} {w₀ : World ρ σ} {ts : List Nat}

/-- Every world of a run has its dispatch instants. -/
theorem Turns.dispatches (h : Turns plan runner limit w₀ w) :
    ∃ ts, Dispatches plan runner limit w₀ w ts := by
  induction h with
  | here => exact ⟨[], .here⟩
  | turn _ ht ih =>
      obtain ⟨ts, hts⟩ := ih
      exact ⟨_, hts.turn ht⟩

theorem Dispatches.turns (h : Dispatches plan runner limit w₀ w ts) : Turns plan runner limit w₀ w := by
  induction h with
  | here => exact .here
  | turn _ ht ih => exact ih.turn ht

/-- One instant for each job dispatched since the start. -/
theorem Dispatches.length_eq (h : Dispatches plan runner limit w₀ w ts) :
    ts.length + w₀.pool.dispatched = w.pool.dispatched := by
  induction h with
  | here => simp
  | turn _ ht ih =>
      have := turn_dispatched_le ht
      simp only [List.length_append, List.length_replicate]
      omega

/-- What a run keeps under a start delay of `spacing` milliseconds: every two dispatches are
`spacing` apart, and once a job was dispatched the next dispatch time is set, `spacing` after
every dispatch. -/
structure Paced (spacing : Nat) (ts : List Nat) (w : World ρ σ) : Prop where
  spaced : ts.Pairwise fun a b => a + spacing ≤ b
  before : ∀ a ∈ ts, ∀ t, w.nextDispatch = some t → a + spacing ≤ t
  armed : ts ≠ [] → w.nextDispatch.isSome

theorem Paced.of_keep (h : Paced spacing ts w) (hx : w'.nextDispatch = w.nextDispatch) :
    Paced spacing ts w' :=
  ⟨h.spaced, fun a ha t ht => h.before a ha t (hx ▸ ht), fun hne => hx ▸ h.armed hne⟩

/-- A dispatch under a delay keeps the run paced: the delay let it go at a time each earlier
dispatch is `spacing` before, and it sets the next dispatch time `spacing` after it. -/
theorem Paced.paces (hs : 0 < spacing) (h : Paced spacing ts w) (hp : Paces spacing w w') :
    Paced spacing (ts ++ List.replicate (w'.pool.dispatched - w.pool.dispatched) w.now) w' := by
  obtain ⟨-, ⟨hd, hx⟩ | ⟨-, hb, hx, h1⟩⟩ := hp
  · simpa [hd] using h.of_keep hx
  · rw [h1 hs, Nat.add_sub_cancel_left, List.replicate_one]
    simp only [gt_iff_lt, hs, if_true] at hx
    -- the time the delay allowed is not after now, and every earlier dispatch is before it
    have hearly : ∀ a ∈ ts, a + spacing ≤ w.now := by
      intro a ha
      obtain ⟨t, ht⟩ := Option.isSome_iff_exists.1 (h.armed (List.ne_nil_of_mem ha))
      have hle : t ≤ w.now := by simpa [heldBack, ht] using hb
      exact (h.before a ha t ht).trans hle
    refine ⟨List.pairwise_append.2 ⟨h.spaced, List.pairwise_singleton _ _, ?_⟩, ?_, by simp [hx]⟩
    · intro a ha b hb
      rw [List.mem_singleton] at hb
      exact hb ▸ hearly a ha
    · intro a ha t ht
      rw [hx, Option.some.injEq] at ht
      rcases List.mem_append.1 ha with ha | ha
      · have := hearly a ha
        omega
      · rw [List.mem_singleton] at ha
        omega

theorem Paced.turn {jobFirst : Bool} (hs : 0 < plan.spacing) (h : Paced plan.spacing ts w)
    (ht : w.turn plan runner limit jobFirst = some w') :
    Paced plan.spacing (ts ++ List.replicate (w'.pool.dispatched - w.pool.dispatched) w.now) w' := by
  rcases turn_paces ht with hp | ⟨hd, hx, -⟩
  · exact h.paces hs hp
  · simpa [hd] using h.of_keep hx

/-- Under a delay, a run is paced all along. -/
theorem Dispatches.paced (hs : 0 < plan.spacing) (h : Dispatches plan runner limit w₀ w ts) :
    Paced plan.spacing ts w := by
  induction h with
  | here => exact ⟨.nil, by simp, by simp⟩
  | turn _ ht ih => exact ih.turn hs ht

end Dispatches

/-! ## No delay -/

/-- With no delay, a turn leaves the next dispatch time as it is. -/
theorem turn_nextDispatch {plan : Plan} {runner : Runner ρ σ} {limit : Nat} {jobFirst : Bool}
    {w w' : World ρ σ} (hs : plan.spacing = 0) (h : w.turn plan runner limit jobFirst = some w') :
    w'.nextDispatch = w.nextDispatch := by
  rcases turn_paces h with ⟨-, ⟨-, hx⟩ | ⟨-, -, hx, -⟩⟩ | ⟨-, hx, -⟩
  · exact hx
  · simpa [hs] using hx
  · exact hx

theorem Turns.nextDispatch {plan : Plan} {runner : Runner ρ σ} {limit : Nat} {w₀ : World ρ σ}
    (hs : plan.spacing = 0) (h : Turns plan runner limit w₀ w) : w.nextDispatch = w₀.nextDispatch := by
  induction h with
  | here => rfl
  | turn _ ht ih => exact (turn_nextDispatch hs ht).trans ih

/-- With no delay, a round with a turn for each waiting job and one more goes on until no slot
is free, no job waits, or a stop was asked for. -/
theorem dispatchAll_fills {plan : Plan} (hs : plan.spacing = 0) :
    ∀ (fuel : Nat) (w : World ρ σ), w.nextDispatch = none → w.pool.pending.length < fuel →
      (dispatchAll plan fuel w).pool.canDispatch = false
  | 0, _, _, hf => absurd hf (Nat.not_lt_zero _)
  | fuel + 1, w, hn, hf => by
    have hb : w.heldBack = false := by simp [heldBack, hn]
    cases hc : w.pool.canDispatch
    · rw [dispatchAll_succ_of_stop plan fuel (.inl hc)]
      exact hc
    · obtain ⟨w', -, hp, hx, -, he⟩ := dispatchAll_succ_of_go plan fuel hc hb
      rw [he]
      exact dispatchAll_fills hs fuel w' (by simpa [hs, hn] using hx) (by omega)

end World

namespace Duration

/-- A duration rounded up to whole milliseconds is no shorter. -/
theorem nanos_le_ceilMillis (d : Duration) : d.nanos ≤ d.ceilMillis * perMilli := by
  unfold ceilMillis perMilli
  omega

theorem ceilMillis_eq_zero_iff (d : Duration) : d.ceilMillis = 0 ↔ d.nanos = 0 := by
  unfold ceilMillis perMilli
  omega

/-- Instants in milliseconds the delay rounded up apart are the delay apart in nanoseconds. -/
theorem add_nanos_le_of_add_ceilMillis_le (d : Duration) {a b : Nat} (h : a + d.ceilMillis ≤ b) :
    a * perMilli + d.nanos ≤ b * perMilli := by
  have hle := nanos_le_ceilMillis d
  have hmul : (a + d.ceilMillis) * perMilli ≤ b * perMilli := Nat.mul_le_mul_right _ h
  rw [Nat.add_mul] at hmul
  omega

end Duration

open World in
/-- Dispatches are spaced by the start delay. In a run whose start delay is `d`, whatever the
order in which jobs finish and stop requests come, every two dispatches are at least `d` apart
when `d` is not zero, with one instant for each job dispatched; with no delay, the next
dispatch time is never set and a round of dispatches fills every free slot with a waiting job
unless a stop was asked for. The first turn is the coordinator's, and with a job and a worker
it dispatches at once, at time zero. -/
theorem dispatch_spacing (cfg : Config) (runner : Runner ρ σ) (shared : ρ) (sinks : List Sink)
    (jobs : List Job) (requests : List (Nat × Request)) (checked : List Log.Event) (limit : Nat)
    {d : Duration} (hd : cfg.limits.taskStartDelay = .ok d) :
    (∀ w ts, Dispatches (launchPlan cfg runner sinks jobs) runner limit
        (launchWorld cfg runner shared sinks jobs requests checked) w ts →
      ts.length = w.pool.dispatched ∧
      (0 < d.nanos → ts.Pairwise fun a b => a * Duration.perMilli + d.nanos ≤ b * Duration.perMilli) ∧
      (d.nanos = 0 → w.nextDispatch = none ∧
        (dispatchAll (launchPlan cfg runner sinks jobs) (w.pool.pending.length + 1) w).pool.canDispatch
          = false)) ∧
    (jobs ≠ [] → 0 < cfg.limits.maxWorkers → ∀ jobFirst : Bool,
      ∃ w₁, (launchWorld cfg runner shared sinks jobs requests checked).turn
          (launchPlan cfg runner sinks jobs) runner limit jobFirst = some w₁ ∧
        0 < w₁.pool.dispatched ∧
        Dispatches (launchPlan cfg runner sinks jobs) runner limit
          (launchWorld cfg runner shared sinks jobs requests checked) w₁
          (List.replicate w₁.pool.dispatched 0)) := by
  have hs : (launchPlan cfg runner sinks jobs).spacing = d.ceilMillis := by simp [launchPlan, hd]
  -- the start world has dispatched nothing and set no dispatch time
  have h₀ : (launchWorld cfg runner shared sinks jobs requests checked).pool.dispatched = 0 := rfl
  have hn₀ : (launchWorld cfg runner shared sinks jobs requests checked).nextDispatch = none := rfl
  refine ⟨fun w ts h => ⟨by simpa [h₀] using h.length_eq, fun hpos => ?_, fun hzero => ?_⟩, ?_⟩
  · -- the plan holds dispatches the delay rounded up to milliseconds apart
    have hm : 0 < d.ceilMillis := Nat.pos_of_ne_zero fun h0 => by
      rw [Duration.ceilMillis_eq_zero_iff] at h0
      omega
    have hp := (h.paced (hs ▸ hm)).spaced
    rw [hs] at hp
    exact hp.imp (Duration.add_nanos_le_of_add_ceilMillis_le d)
  · have hz : (launchPlan cfg runner sinks jobs).spacing = 0 := by
      rw [hs, Duration.ceilMillis_eq_zero_iff]
      exact hzero
    have hn : w.nextDispatch = none := (h.turns.nextDispatch hz).trans hn₀
    exact ⟨hn, dispatchAll_fills hz _ w hn (Nat.lt_succ_self _)⟩
  · intro hj hm jobFirst
    obtain ⟨w₁, ht, hd₁, -⟩ := launchWorld_turn_dispatches cfg runner shared sinks jobs requests
      checked limit jobFirst hj hm
    have h := Dispatches.here.turn ht
    rw [h₀, Nat.sub_zero, List.nil_append] at h
    -- the first turn is taken at time zero
    exact ⟨w₁, ht, hd₁, h⟩

open World in
/-- Three jobs on two workers, dispatched 5 ms apart: the run to its end dispatches them at
instants at least 5 ms apart. -/
theorem dispatch_spacing_five_millis :
    let cfg : Config := { limits := { maxWorkers := 2, taskStartDelaySecs := 0.005 } }
    let runner : Runner Unit Unit :=
      { name := "echo"
        start := fun s d now _ =>
          { progress := .finished ((Outcome.started d.job d.taskIndex d.workerId now).close .success "" now),
            shared := s }
        resume := fun s _ _ _ => { progress := .crashed "no state", shared := s } }
    let jobs : List Job := [.file "a", .file "b", .file "c"]
    cfg.limits.taskStartDelay = .ok ⟨5000000⟩ ∧
      ∃ ts, Dispatches (launchPlan cfg runner [] jobs) runner 100
          (launchWorld cfg runner () [] jobs [] []) (launchRun cfg runner () [] jobs [] 100 []) ts ∧
        ts.length = (launchRun cfg runner () [] jobs [] 100 []).pool.dispatched ∧
        ts.Pairwise fun a b => a * Duration.perMilli + 5000000 ≤ b * Duration.perMilli := by
  intro cfg runner jobs
  have hd : cfg.limits.taskStartDelay = .ok ⟨5000000⟩ := by decide +kernel
  have hturns : Turns (launchPlan cfg runner [] jobs) runner 100
      (launchWorld cfg runner () [] jobs [] []) (launchRun cfg runner () [] jobs [] 100 []) :=
    Turns.steps _ .here
  obtain ⟨ts, h⟩ := hturns.dispatches
  have hrun := (dispatch_spacing cfg runner () [] jobs [] [] 100 hd).1 _ ts h
  exact ⟨hd, ts, h, hrun.1, hrun.2.1 (by decide)⟩

end Fanout
