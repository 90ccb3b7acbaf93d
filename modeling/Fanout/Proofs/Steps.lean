import Fanout.Run.Schedule

/-!
# What each step of a run changes

A turn of a run (`World.turn`) is made of a few steps: waking waiters, telling the sinks, testing
the breaker, the coordinator taking note of a stop request, dispatching, taking finished jobs in
and ending the run, a worker's turn, a stop request's turn and the clock moving. Each step's
shape is said here once: the fields of the world it changes, and the conditions under which it
changes them. The books, the accounts, the records and the spacing of a run are read off these
shapes, so a change to one step touches one lemma here. Only facts about what happens inside a
step (which workers a stop request releases, what ending a run with jobs still in flight does to
the dispatches) look into its definition.
-/

namespace Fanout

/-- The pool hands out a job exactly when it can dispatch. -/
theorem Pool.isSome_dispatchNext (p : Pool) (now : Nat) :
    (p.dispatchNext now).1.isSome = p.canDispatch := by
  unfold Pool.dispatchNext Pool.canDispatch
  cases hs : p.shutdownRequested
  · rcases hf : p.freeSlots with _ | ⟨w, ws⟩ <;> rcases hp : p.pending with _ | ⟨job, rest⟩ <;> simp
  · simp

namespace World

variable {ρ σ : Type}

/-! ## Waking waiters -/

/-- A world after waking waiters: the queue, the coordinator's wait, the workers' phases and the
deadlines of the stop requests are new; the jobs being worked on, with what their workers were
given, and what each request asks for are those of before; nothing else changed. -/
def Woken (w w' : World ρ σ) : Prop :=
  ∃ q c l rs, w' = { w with queue := q, coordinatorWait := c, live := l, requests := rs } ∧
    l.map (fun e => (e.key, e.dispatch)) = w.live.map (fun e => (e.key, e.dispatch)) ∧
    rs.map (fun x => (x.1, x.2.request)) = w.requests.map (fun x => (x.1, x.2.request))

theorem Woken.refl (w : World ρ σ) : Woken w w := ⟨_, _, _, _, rfl, rfl, rfl⟩

theorem Woken.trans {w w' w'' : World ρ σ} (h : Woken w w') (h' : Woken w' w'') : Woken w w'' := by
  obtain ⟨q, c, l, rs, rfl, hl, hr⟩ := h
  obtain ⟨q', c', l', rs', rfl, hl', hr'⟩ := h'
  exact ⟨q', c', l', rs', rfl, hl'.trans hl, hr'.trans hr⟩

theorem Woken.foldl {α : Type} {f : World ρ σ → α → World ρ σ} (hf : ∀ w a, Woken w (f w a)) :
    ∀ (xs : List α) (w : World ρ σ), Woken w (xs.foldl f w)
  | [], w => .refl w
  | a :: xs, w => (hf w a).trans (Woken.foldl hf xs (f w a))

/-- Moving workers from phase to phase leaves the jobs being worked on as they were. -/
theorem started_map_phase {f : Active σ → Active σ}
    (hf : ∀ x, (f x).key = x.key ∧ (f x).dispatch = x.dispatch) (l : List (Active σ)) :
    (l.map f).map (fun e => (e.key, e.dispatch)) = l.map fun e => (e.key, e.dispatch) := by
  rw [List.map_map]
  congr 1
  funext x
  simp [hf x]

/-- Arming or disarming deadlines changes nothing of what the stop requests ask for. -/
theorem requests_map_seq {rs : List (Nat × Pending)} {f : Nat × Pending → Nat × Pending}
    (hf : ∀ x ∈ rs, (f x).1 = x.1 ∧ (f x).2.request = x.2.request) :
    (rs.map f).map (fun x => (x.1, x.2.request)) = rs.map (fun x => (x.1, x.2.request)) := by
  rw [List.map_map]
  refine List.map_congr_left fun x hx => ?_
  simp [hf x hx]

theorem woken_wakeWorker (w : World ρ σ) (k : Nat) : Woken w (w.wakeWorker k) := by
  refine ⟨_, _, _, _, rfl, started_map_phase (fun x => ?_) w.live, rfl⟩
  split
  · split <;> exact ⟨rfl, rfl⟩
  · exact ⟨rfl, rfl⟩

theorem woken_wakeCoordinator (w : World ρ σ) : Woken w w.wakeCoordinator :=
  ⟨_, _, _, _, rfl, rfl, rfl⟩

theorem woken_releaseWorker (w : World ρ σ) (e : Active σ) : Woken w (w.releaseWorker e) := by
  unfold releaseWorker
  split
  · split
    · exact woken_wakeWorker w e.key
    · exact .refl w
  · exact .refl w

theorem woken_wakeSignalled (w : World ρ σ) : Woken w w.wakeSignalled := by
  unfold wakeSignalled
  dsimp only
  -- the coordinator is woken first, then the workers one by one
  refine Woken.trans ?_ (Woken.foldl woken_releaseWorker _ _)
  split
  · split
    · exact woken_wakeCoordinator w
    · exact .refl w
  · exact .refl w

/-- Asking the run to stop counts a request on the handle, then wakes whom it releases. -/
theorem woken_askStop (w : World ρ σ) : Woken { w with handle := w.handle.request.2 } w.askStop :=
  woken_wakeSignalled _

theorem woken_forceStop (w : World ρ σ) : Woken { w with handle := w.handle.force } w.forceStop :=
  woken_wakeSignalled _

/-- A deadline that came wakes its waiter; a stop request's is disarmed and the request queued. -/
theorem woken_wakeDue (w : World ρ σ) (a : Actor) : Woken w (w.wakeDue a) := by
  cases a with
  | coordinator => exact woken_wakeCoordinator w
  | worker k => exact woken_wakeWorker w k
  | request i =>
      refine ⟨_, _, _, _, rfl, rfl, requests_map_seq fun x _ => ?_⟩
      split <;> simp_all

/-- Moving the clock to `t` wakes, one by one, whoever waits for a time not after it. -/
theorem woken_advance (w : World ρ σ) (t : Nat) : Woken { w with now := t } (w.advance t) := by
  unfold advance
  exact Woken.foldl woken_wakeDue _ _

/-! ## Telling the sinks -/

/-- A fold that makes one call per element, on the sink the element names, and adds to the log
makes those calls in order, and changes nothing else. -/
theorem foldl_tell {α : Type} {f : World ρ σ → α → World ρ σ} {g : α → Nat × SinkCall}
    (hf : ∀ w a, ∃ lg, f w a = { w with sinkCalls := w.sinkCalls ++ [g a], log := lg }) :
    ∀ (xs : List α) (w : World ρ σ),
      ∃ lg, xs.foldl f w = { w with sinkCalls := w.sinkCalls ++ xs.map g, log := lg }
  | [], w => ⟨w.log, by simp⟩
  | a :: xs, w => by
    obtain ⟨lg, h⟩ := hf w a
    obtain ⟨lg', h'⟩ := foldl_tell hf xs (f w a)
    refine ⟨lg', ?_⟩
    rw [List.foldl_cons, h', h]
    simp

/-- Handing out an outcome publishes it and calls every sink with it, in the order of the
sinks, whatever the sinks answer; only the log tells the answers apart. -/
theorem publish_eq (plan : Plan) (w : World ρ σ) (o : Outcome) : ∃ lg,
    w.publish plan o = { w with
      published := w.published ++ [o]
      sinkCalls := w.sinkCalls ++ plan.sinks.zipIdx.map (fun x => (x.2, .record o))
      log := lg } := by
  unfold publish
  refine foldl_tell (fun v x => ?_) _ _
  obtain ⟨sink, i⟩ := x
  dsimp only
  split
  · exact ⟨_, rfl⟩
  · split
    · exact ⟨_, rfl⟩
    · exact ⟨_, rfl⟩

/-- Closing the sinks calls every sink with the summary, in the order of the sinks. -/
theorem finishSinks_eq (plan : Plan) (w : World ρ σ) (s : Summary) : ∃ lg,
    w.finishSinks plan s = { w with
      sinkCalls := w.sinkCalls ++ plan.sinks.zipIdx.map (fun x => (x.2, .finish s)), log := lg } := by
  unfold finishSinks
  refine foldl_tell (fun v x => ?_) _ _
  obtain ⟨sink, i⟩ := x
  dsimp only
  split
  · exact ⟨_, rfl⟩
  · split
    · exact ⟨_, rfl⟩
    · exact ⟨_, rfl⟩

/-! ## The coordinator's checks -/

/-- The breaker's test changes nothing, and then it has no verdict or may not trip; or, with the
breaker enabled, the coordinator still dispatching and a verdict `t`, it sets the trip, stops the
coordinator, notes the trip in the log and asks the run to stop. -/
theorem testBreaker_cases (plan : Plan) (w : World ρ σ) :
    (w.testBreaker plan = w ∧ (plan.config.autoStop.enabled = true →
      w.pool.shutdownRequested = false →
      Breaker.evaluate w.pool.consecutiveFailures w.pool.totalCompleted w.pool.failed
        plan.config.autoStop = none)) ∨
    ∃ t lg, plan.config.autoStop.enabled = true ∧ w.pool.shutdownRequested = false ∧
      Breaker.evaluate w.pool.consecutiveFailures w.pool.totalCompleted w.pool.failed
        plan.config.autoStop = some t ∧
      Woken { w with
        trip := some t
        pool := w.pool.requestShutdown.2
        handle := w.handle.request.2
        log := lg } (w.testBreaker plan) := by
  unfold testBreaker
  dsimp only
  split
  · next hoff =>
      refine .inl ⟨rfl, fun hen hsd => ?_⟩
      simp [hen, hsd] at hoff
  · next hon =>
      simp only [Bool.or_eq_true, Bool.not_eq_true', not_or, Bool.not_eq_false] at hon
      split
      · next hnone => exact .inl ⟨rfl, fun _ _ => hnone⟩
      · next t ht =>
          exact .inr ⟨t, _, by simpa using hon.1, by simpa using hon.2, ht, woken_askStop _⟩

/-- The coordinator takes note of a stop request it has not acted on yet: it stops dispatching
and says so in the log. Otherwise nothing changes. -/
theorem noticeStop_cases (plan : Plan) (w : World ρ σ) :
    ((w.handle.requested = false ∨ w.pool.shutdownRequested = true) ∧ w.noticeStop plan = w) ∨
    (w.handle.requested = true ∧ w.pool.shutdownRequested = false ∧
      ∃ lg, w.noticeStop plan = { w with pool := w.pool.requestShutdown.2, log := lg }) := by
  unfold noticeStop
  split
  · next hc =>
      simp only [Bool.and_eq_true, Bool.not_eq_true'] at hc
      exact .inr ⟨hc.1, hc.2, _, rfl⟩
  · next hc =>
      have hnone : w.handle.requested = false ∨ w.pool.shutdownRequested = true := by
        cases hq : w.handle.requested <;> simp_all
      exact .inl ⟨hnone, rfl⟩

/-! ## Taking jobs in and ending the run -/

/-- Taking in a finished job of key `key`: a key not in flight is ignored, with a note in the
log; a job in flight leaves it, its outcome (the worker's, or a lost job's record when the
worker gave none) is counted, recorded for the job's dispatch and handed to the sinks, and the
breaker is tested. -/
theorem consolidate_cases (plan : Plan) (w : World ρ σ) (key : Nat) (r : Except String Outcome) :
    (∃ p lg, w.pool.complete key = (none, p) ∧
      w.consolidate plan key r = { w with pool := p, log := lg }) ∨
    ∃ f p o lg, w.pool.complete key = (some f, p) ∧
      (r = .ok o ∨ ∃ reason, r = .error reason ∧ o = f.lost reason w.now) ∧
      w.consolidate plan key r = (({ w with
        pool := p.record o.status
        recordedFor := w.recordedFor ++ [f.dispatch]
        log := lg } : World ρ σ).publish plan o).testBreaker plan := by
  unfold consolidate
  split
  · next p hc => exact .inl ⟨p, _, hc, rfl⟩
  · next f p hc =>
      refine .inr ?_
      cases r with
      | ok o => exact ⟨f, p, o, _, hc, .inl rfl, rfl⟩
      | error reason => exact ⟨f, p, f.lost reason w.now, _, hc, .inr ⟨reason, rfl, rfl⟩, rfl⟩

/-- Taking in a job that is in flight: `consolidate_cases` for the flight the pool lets go of. -/
theorem consolidate_of_complete (plan : Plan) (w : World ρ σ) {key : Nat}
    (r : Except String Outcome) {f : Flight} {p : Pool} (hc : w.pool.complete key = (some f, p)) :
    ∃ o lg, (r = .ok o ∨ ∃ reason, r = .error reason ∧ o = f.lost reason w.now) ∧
      w.consolidate plan key r = (({ w with
        pool := p.record o.status
        recordedFor := w.recordedFor ++ [f.dispatch]
        log := lg } : World ρ σ).publish plan o).testBreaker plan := by
  rcases consolidate_cases plan w key r with ⟨p', lg, hc', -⟩ | ⟨f', p', o, lg, hc', ho, he⟩
  · rw [hc] at hc'
    cases hc'
  · rw [hc] at hc'
    simp only [Prod.mk.injEq, Option.some.injEq] at hc'
    obtain ⟨rfl, rfl⟩ := hc'
    exact ⟨o, lg, ho, he⟩

/-- The run ends with nothing in flight: the pool lets go of no job, the summary is the pool's
(or, when the pool cannot make one, its counts with none cancelled), every sink is given it, the
log says the run finished, and the world has its result. -/
theorem conclude_of_inFlight_nil (plan : Plan) (w : World ρ σ) (hin : w.pool.inFlight = []) :
    ∃ s lg, (w.pool.takeInFlight.2.summary w.stopReason = .ok s ∨
        ∃ e, w.pool.takeInFlight.2.summary w.stopReason = .error e ∧
          s = ⟨w.pool.total, w.pool.completed, w.pool.failed, 0, w.stopReason⟩) ∧
      w.conclude plan = { w with
        pool := w.pool.takeInFlight.2
        sinkCalls := w.sinkCalls ++ plan.sinks.zipIdx.map (fun x => (x.2, .finish s))
        log := lg
        result := some s } := by
  have htake : w.pool.takeInFlight = ([], w.pool.takeInFlight.2) := by
    simp [Pool.takeInFlight, hin]
  unfold conclude
  rw [htake]
  dsimp only [List.foldl_nil]
  split
  · next s hs =>
      obtain ⟨lg, he⟩ := finishSinks_eq plan _ s
      refine ⟨s, lg, .inl hs, ?_⟩
      rw [he]
      rfl
  · next e hs =>
      obtain ⟨lg, he⟩ := finishSinks_eq plan _ _
      refine ⟨_, lg, .inr ⟨e, hs, rfl⟩, ?_⟩
      rw [he]
      rfl

/-- The coordinator wakes inside its wait: it takes a finished job in, when one is at hand and
either `jobFirst` holds or nothing else is ready; else nothing happens. -/
theorem resume_cases (plan : Plan) (jobFirst : Bool) (w : World ρ σ) :
    w.resume plan jobFirst = w ∨
    ∃ key r rest, w.joined = (key, r) :: rest ∧ (jobFirst = true ∨ w.otherReady = false) ∧
      w.resume plan jobFirst = ({ w with joined := rest } : World ρ σ).consolidate plan key r := by
  unfold resume
  split
  · next key r rest hj =>
      split
      · next hpick =>
          have hor : jobFirst = true ∨ w.otherReady = false := by simpa using hpick
          exact .inr ⟨key, r, rest, hj, hor, rfl⟩
      · exact .inl rfl
  · exact .inl rfl

/-! ## Dispatching -/

/-- A round of dispatches with fuel left stops at once when no job can be dispatched or the start
delay holds the next one back. Otherwise the pool hands out a job, which is put to work and
queued; the dispatch is noted, the next dispatch time is set when there is a delay, and the
round goes on. -/
theorem dispatchAll_succ (plan : Plan) (fuel : Nat) (w : World ρ σ) :
    ((w.pool.canDispatch = false ∨ w.heldBack = true) ∧ dispatchAll plan (fuel + 1) w = w) ∨
    ∃ key d p, w.pool.canDispatch = true ∧ w.heldBack = false ∧
      w.pool.dispatchNext w.now = (some (key, d), p) ∧
      ∃ lg, dispatchAll plan (fuel + 1) w = dispatchAll plan fuel { w with
        pool := p
        live := w.live ++ [⟨key, d, .fresh⟩]
        queue := w.queue ++ [.worker key]
        log := lg
        nextDispatch := if plan.spacing > 0 then some (w.now + plan.spacing) else w.nextDispatch } := by
  by_cases hgo : w.pool.canDispatch = true ∧ w.heldBack = false
  · -- a pool that can dispatch hands out a job
    have hsome := Pool.isSome_dispatchNext w.pool w.now
    rw [hgo.1] at hsome
    obtain ⟨⟨key, d⟩, p, hd⟩ : ∃ kd p, w.pool.dispatchNext w.now = (some kd, p) := by
      rcases h : w.pool.dispatchNext w.now with ⟨_ | kd, p⟩
      · rw [h] at hsome
        cases hsome
      · exact ⟨kd, p, rfl⟩
    refine .inr ⟨key, d, p, hgo.1, hgo.2, hd, ?_⟩
    rw [dispatchAll.eq_2]
    simp only [hgo.1, hgo.2, Bool.not_true, Bool.or_false, Bool.false_eq_true, if_false, hd]
    exact ⟨_, rfl⟩
  · have hstop : w.pool.canDispatch = false ∨ w.heldBack = true := by
      cases hc : w.pool.canDispatch <;> cases hb : w.heldBack <;> simp_all
    refine .inl ⟨hstop, ?_⟩
    rw [dispatchAll.eq_2]
    rcases hstop with h | h <;> simp [h]

/-! ## The coordinator's loop -/

/-- One round of the coordinator's loop, after it took note of a stop request and dispatched
what it could (`v`): it concludes the run when nothing is running, waiting or left to dispatch;
else it takes in the first finished job and goes round again; else it goes round again at once,
when a stop request was not acted on yet or a delayed dispatch is due; else it waits, for the
next delayed dispatch and, while still dispatching, for a stop request. -/
theorem coordinate_succ (plan : Plan) (fuel : Nat) (w v : World ρ σ)
    (hv : v = dispatchAll plan ((w.noticeStop plan).pool.pending.length + 1) (w.noticeStop plan)) :
    (v.live = [] ∧ v.joined = [] ∧ coordinate plan (fuel + 1) w = v.conclude plan) ∨
    (∃ key r rest, v.joined = (key, r) :: rest ∧ coordinate plan (fuel + 1) w =
      coordinate plan fuel (({ v with joined := rest } : World ρ σ).consolidate plan key r)) ∨
    coordinate plan (fuel + 1) w = coordinate plan fuel v ∨
    coordinate plan (fuel + 1) w = { v with
      coordinatorWait := some (⟨v.delayed, !v.pool.shutdownRequested, false⟩, v.seq)
      seq := v.seq + 1 } := by
  subst hv
  rw [coordinate.eq_2]
  dsimp only
  split
  · next hend =>
      simp only [Bool.and_eq_true, List.isEmpty_iff] at hend
      exact .inl ⟨hend.1.1, hend.1.2, rfl⟩
  · split
    · next key r rest hj => exact .inr (.inl ⟨key, r, rest, hj, rfl⟩)
    · split
      · exact .inr (.inr (.inl rfl))
      · split
        · exact .inr (.inr (.inl rfl))
        · exact .inr (.inr (.inr rfl))

/-! ## The turns of workers and stop requests -/

/-- Where a worker got to is recorded: still waiting, its phase says for what and the order
counter moves; finished or broken down, its job leaves the workers for those waiting for the
coordinator, one fewer job runs, and a waiting coordinator is woken. -/
theorem settle_cases (w : World ρ σ) (key : Nat) (p : Progress σ) :
    (∃ s wait, p = .waiting s wait ∧ w.settle key p = { w with
      live := w.live.map fun x =>
        if x.key == key then { x with phase := .waiting s wait w.seq } else x
      seq := w.seq + 1 }) ∨
    ∃ r, Woken { w with
      live := w.live.filter (·.key != key)
      joined := w.joined ++ [(key, r)]
      running := w.running - 1 } (w.settle key p) := by
  unfold settle
  cases p with
  | waiting s wait => exact .inl ⟨s, wait, rfl, rfl⟩
  | finished o =>
      refine .inr ⟨.ok o, ?_⟩
      dsimp only
      split
      · exact woken_wakeCoordinator _
      · exact .refl _
  | crashed msg =>
      refine .inr ⟨.error ("executor panicked: " ++ msg), ?_⟩
      dsimp only
      split
      · exact woken_wakeCoordinator _
      · exact .refl _

/-- A worker's turn does nothing, or runs the worker of `key`, which is at work, and records
where it got to; the run itself changes only the state all jobs share, the log and the counts of
jobs run and running. -/
theorem work_cases (runner : Runner ρ σ) (w : World ρ σ) (key : Nat) :
    w.work runner key = w ∨
    key ∈ w.live.map (·.key) ∧ ∃ sh lg ex ru pk p, w.work runner key =
      ({ w with shared := sh, log := lg, executed := ex, running := ru, peak := pk } :
        World ρ σ).settle key p := by
  unfold work
  split
  · exact .inl rfl
  · next e he =>
      have hk : key ∈ w.live.map (·.key) := by
        have hkey : e.key = key := by simpa using List.find?_some he
        exact List.mem_map.2 ⟨e, List.mem_of_find?_eq_some he, hkey⟩
      split
      · exact .inr ⟨hk, _, _, _, _, _, _, rfl⟩
      · exact .inr ⟨hk, _, _, w.executed, w.running, w.peak, _, rfl⟩
      · exact .inl rfl

/-- A stop request's turn: a request no longer there changes nothing; a due one leaves the
requests, and the run is asked to stop, or forced to by a forcing request; one not yet due has
its deadline armed, and only the order counter moves besides. -/
theorem deliver_cases (w : World ρ σ) (i : Nat) :
    w.deliver i = w ∨
    (∃ r, (i, r) ∈ w.requests ∧ r.at_ ≤ w.now ∧
      ((r.request = .shutdown ∧
        w.deliver i = ({ w with requests := w.requests.filter (·.1 != i) } : World ρ σ).askStop) ∨
       (r.request = .force ∧
        w.deliver i = ({ w with requests := w.requests.filter (·.1 != i) } : World ρ σ).forceStop))) ∨
    ∃ r, (i, r) ∈ w.requests ∧ w.deliver i = { w with
      requests := w.requests.map fun x => if x.1 == i then (i, { r with seq := some w.seq }) else x
      seq := w.seq + 1 } := by
  unfold deliver
  split
  · exact .inl rfl
  · next j r hfind =>
      have hj : j = i := by simpa using List.find?_some hfind
      subst hj
      have hmem := List.mem_of_find?_eq_some hfind
      split
      · next hat =>
          refine .inr (.inl ⟨r, hmem, hat, ?_⟩)
          dsimp only
          split
          · next hr => exact .inl ⟨hr, rfl⟩
          · next hr => exact .inr ⟨hr, rfl⟩
      · exact .inr (.inr ⟨r, hmem, rfl⟩)

/-! ## Turns -/

/-- One turn: the first in the queue leaves it and acts (the coordinator, unless the run has
ended, wakes as `jobFirst` says and goes round its loop; a worker runs; a stop
request is delivered); with nobody ready, the clock moves to the first deadline, never back and
only before `limit`. -/
theorem turn_cases {plan : Plan} {runner : Runner ρ σ} {limit : Nat} {jobFirst : Bool}
    {w w' : World ρ σ} (ht : w.turn plan runner limit jobFirst = some w') :
    (∃ rest, w.queue = .coordinator :: rest ∧ w.result.isSome ∧ w' = { w with queue := rest }) ∨
    (∃ rest, w.queue = .coordinator :: rest ∧ w.result = none ∧
      w' = coordinate plan (w.joined.length + w.live.length + w.pool.pending.length + 4)
        (({ w with queue := rest } : World ρ σ).resume plan jobFirst)) ∨
    (∃ k rest, w.queue = .worker k :: rest ∧
      w' = ({ w with queue := rest } : World ρ σ).work runner k) ∨
    (∃ i rest, w.queue = .request i :: rest ∧
      w' = ({ w with queue := rest } : World ρ σ).deliver i) ∨
    (w.queue = [] ∧ ∃ t, (w.deadlines.map (·.1)).min? = some t ∧ t < limit ∧
      w' = w.advance (max t w.now)) := by
  unfold turn at ht
  split at ht
  · next a rest hq =>
      cases ht
      cases a with
      | coordinator =>
          dsimp only
          split
          · next hres => exact .inl ⟨rest, hq, hres, rfl⟩
          · next hres => exact .inr (.inl ⟨rest, hq, by simpa using hres, rfl⟩)
      | worker k => exact .inr (.inr (.inl ⟨k, rest, hq, rfl⟩))
      | request i => exact .inr (.inr (.inr (.inl ⟨i, rest, hq, rfl⟩)))
  · next hq =>
      split at ht
      · next t hmin =>
          split at ht
          · cases ht
          · next hlt =>
              cases ht
              exact .inr (.inr (.inr (.inr ⟨hq, t, hmin, by omega, rfl⟩)))
      · cases ht

/-- The coordinator's turn, when it is first in the queue and the run has not ended. -/
theorem turn_coordinator {plan : Plan} {runner : Runner ρ σ} {limit : Nat} {jobFirst : Bool}
    {w : World ρ σ} {rest : List Actor} (hq : w.queue = .coordinator :: rest)
    (hr : w.result = none) :
    w.turn plan runner limit jobFirst = some (coordinate plan
      (w.joined.length + w.live.length + w.pool.pending.length + 4)
      (({ w with queue := rest } : World ρ σ).resume plan jobFirst)) := by
  unfold turn
  rw [hq]
  simp only [hr, Option.isSome_none, Bool.false_eq_true, if_false]

end World

end Fanout
