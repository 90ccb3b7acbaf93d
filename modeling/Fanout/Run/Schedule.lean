import Fanout.Run.Pool
import Fanout.Run.Shutdown
import Fanout.Run.Breaker
import Fanout.Run.Error
import Fanout.Config.Basic
import Fanout.Log.Report

/-!
# Running a job set

A run on a millisecond clock. One coordinator hands jobs to workers while slots are free (at
most one dispatch per start delay), consolidates each finished job in the order the jobs
finished, trips the breaker when it is enabled and no stop was asked for yet, and stops
dispatching on a shutdown request. Workers and the coordinator take turns: whatever can go on
at the current time goes on, in the order it became ready, and the clock moves to the next
deadline only when nothing can. The coordinator waits inside its loop for whichever comes first
of a finished job, a stop request and its next dispatch. Woken with a finished job at hand while
a stop request or a due dispatch is there too, it may take either first: nothing fixes which,
so every turn says which (`jobFirst`). A run as the program performs it (`launchRun`) goes round
the loop first, taking note of the stop request or dispatching, and takes the job in after.

A worker is a state machine (`Runner`): started with its dispatch, it finishes with an outcome,
crashes with a message, or waits for a deadline, for its job's cancellation or for a forced
stop. A job's cancellation follows the run's stop request: the first request cancels every job
in flight and every job started later; a second request, or a forced stop, also sets the
forced signal.

The run ends when nothing is in flight and nothing more can be dispatched. Its stop reason is
the breaker's trip if there was one, else a forced stop, else a stop request, else completion.
-/

namespace Fanout

/-- What a started job waits for before it goes on. -/
structure Wait where
  /-- A time at which it goes on in any case. -/
  deadline : Option Nat := none
  /-- Whether its job's cancellation wakes it. -/
  onCancel : Bool := false
  /-- Whether a forced stop wakes it. -/
  onForce : Bool := false
  deriving Inhabited, DecidableEq, Repr

/-- Where a worker stands after running for a while. -/
inductive Progress (σ : Type) where
  | waiting (state : σ) (wait : Wait)
  | finished (outcome : Outcome)
  /-- The worker broke down; the message says how. -/
  | crashed (message : String)
  deriving Inhabited

/-- What a worker's step leaves: where the job stands, the events it reported, and the state
all jobs share afterwards. -/
structure Step (ρ σ : Type) where
  progress : Progress σ
  events : List Log.Event := []
  shared : ρ

/-- A way of running jobs: a name, a check of the whole job set (with the events the check
reports), and the steps of one job. Each step sees the state all jobs share (`ρ`, such as the
files of the host), the time and the job's stop signals. -/
structure Runner (ρ σ : Type) where
  name : String
  check : List Job → Except CheckError Unit := fun _ => .ok ()
  checkEvents : List Job → List Log.Event := fun _ => []
  start : ρ → Dispatch → Nat → StopSignals → Step ρ σ
  resume : ρ → σ → Nat → StopSignals → Step ρ σ

/-- A receiver of outcomes and of the summary. -/
structure Sink where
  name : String
  /-- The error every call of a sink that always fails reports. -/
  failure : Option String := none
  /-- Whether the sink reports what it receives to the log. -/
  logs : Bool := false
  deriving Inhabited, DecidableEq, Repr

/-- A call the coordinator makes on a sink: hand it an outcome, or finish it with the run's
summary. -/
inductive SinkCall where
  | record (o : Outcome)
  | finish (s : Summary)
  deriving Inhabited

/-- A stop request from outside the run, at a given time. -/
inductive Request where
  | shutdown
  | force
  deriving Inhabited, DecidableEq, Repr

/-- Who runs next. -/
inductive Actor where
  | coordinator
  | worker (key : Nat)
  | request (index : Nat)
  deriving Inhabited, DecidableEq, Repr

/-- A worker's place in its job. -/
inductive Phase (σ : Type) where
  /-- Started but not yet run. -/
  | fresh
  /-- Woken and about to go on. -/
  | ready (state : σ)
  /-- Waiting; `seq` orders deadlines that fall on the same time. -/
  | waiting (state : σ) (wait : Wait) (seq : Nat)
  deriving Inhabited

/-- A job being worked on. -/
structure Active (σ : Type) where
  key : Nat
  dispatch : Dispatch
  phase : Phase σ
  deriving Inhabited

/-- A stop request not yet delivered. -/
structure Pending where
  at_ : Nat
  request : Request
  /-- Once armed, the request waits for its time like any deadline. -/
  seq : Option Nat := none
  deriving Inhabited, DecidableEq, Repr

/-- The settings the coordinator works with. -/
structure Plan where
  config : Config
  sinks : List Sink
  /-- The least time between two dispatches, in milliseconds; zero for none. -/
  spacing : Nat
  /-- The span every coordinator event happens inside. -/
  span : Log.Span
  deriving Inhabited

/-- The whole state of a run. -/
structure World (ρ σ : Type) where
  now : Nat := 0
  /-- The state all jobs share. -/
  shared : ρ
  pool : Pool
  handle : Shutdown := {}
  queue : List Actor := [.coordinator]
  live : List (Active σ) := []
  /-- Finished jobs not yet consolidated, in the order they finished. -/
  joined : List (Nat × Except String Outcome) := []
  /-- What the coordinator waits for, while it waits. -/
  coordinatorWait : Option (Wait × Nat) := none
  requests : List (Nat × Pending) := []
  nextDispatch : Option Nat := none
  trip : Option Trip := none
  /-- Every outcome the sinks received, in order. -/
  published : List Outcome := []
  /-- The jobs the outcomes in `published` were for, in the same order. -/
  recordedFor : List Dispatch := []
  /-- The calls made on the sinks, in order, each with the position of its sink. -/
  sinkCalls : List (Nat × SinkCall) := []
  executed : Nat := 0
  running : Nat := 0
  peak : Nat := 0
  log : List Log.Event := []
  seq : Nat := 0
  /-- The summary, once the run has ended. -/
  result : Option Summary := none
  deriving Inhabited

/-- An event of the coordinator. -/
def coordinatorEvent (level : Log.Level) (message : String) (fields : List (String × Log.Value)) :
    Log.Event :=
  { level, target := "fanrun.core.scheduler", message, fields }

namespace World

variable {ρ σ : Type}

/-- Add events to the log. -/
def emit (w : World ρ σ) (es : List Log.Event) : World ρ σ := { w with log := w.log ++ es }

/-- Add an event of the coordinator, inside the run's span. -/
def note (plan : Plan) (w : World ρ σ) (e : Log.Event) : World ρ σ := w.emit [e.within plan.span]

/-- Put an actor at the end of the queue. -/
def enqueue (w : World ρ σ) (a : Actor) : World ρ σ := { w with queue := w.queue ++ [a] }

/-- The stop signals every job sees: its cancellation follows the run's stop request. -/
def signals (w : World ρ σ) : StopSignals := ⟨w.handle.requested, w.handle.forced⟩

/-- Make a waiting worker ready and queue it. -/
def wakeWorker (w : World ρ σ) (k : Nat) : World ρ σ :=
  let live := w.live.map fun x =>
    if x.key == k then
      match x.phase with
      | .waiting s _ _ => { x with phase := .ready s }
      | _ => x
    else x
  { w with live := live, queue := w.queue ++ [Actor.worker k] }

/-- Queue the coordinator, which no longer waits. -/
def wakeCoordinator (w : World ρ σ) : World ρ σ :=
  { w with coordinatorWait := none, queue := w.queue ++ [Actor.coordinator] }

/-- Wake the worker of `e` if the current signals release its wait. -/
def releaseWorker (w : World ρ σ) (e : Active σ) : World ρ σ :=
  match e.phase with
  | .waiting _ wait _ =>
    if (wait.onCancel && w.handle.requested) || (wait.onForce && w.handle.forced) then
      w.wakeWorker e.key
    else w
  | _ => w

/-- Wake the waiters that the current signals release: the coordinator first when it waits
for a stop request, then the workers by key. -/
def wakeSignalled (w : World ρ σ) : World ρ σ :=
  let w := match w.coordinatorWait with
    | some (wait, _) => if wait.onCancel && w.handle.requested then w.wakeCoordinator else w
    | none => w
  w.live.foldl releaseWorker w

/-- Ask the run to stop, as a holder of the handle does. -/
def askStop (w : World ρ σ) : World ρ σ :=
  let w2 : World ρ σ := { w with handle := (w.handle.request).2 }
  w2.wakeSignalled

/-- Force the run to stop. -/
def forceStop (w : World ρ σ) : World ρ σ :=
  let w2 : World ρ σ := { w with handle := w.handle.force }
  w2.wakeSignalled

/-- Give every sink an outcome. -/
def publish (plan : Plan) (w : World ρ σ) (o : Outcome) : World ρ σ :=
  let w := { w with published := w.published ++ [o] }
  plan.sinks.zipIdx.foldl (fun w (sink, i) =>
    let w := { w with sinkCalls := w.sinkCalls ++ [(i, .record o)] }
    match sink.failure with
    | some err =>
      w.note plan (coordinatorEvent .warn "failed to record outcome"
        [("sink", .str sink.name), ("task_index", .nat o.taskIndex), ("error", .shown err)])
    | none => if sink.logs then w.note plan (Log.outcomeEvent o) else w) w

/-- Give every sink the summary. -/
def finishSinks (plan : Plan) (w : World ρ σ) (s : Summary) : World ρ σ :=
  plan.sinks.zipIdx.foldl (fun w (sink, i) =>
    let w := { w with sinkCalls := w.sinkCalls ++ [(i, .finish s)] }
    match sink.failure with
    | some err =>
      w.note plan (coordinatorEvent .warn "failed to finish sink"
        [("sink", .str sink.name), ("error", .shown err)])
    | none => if sink.logs then w.note plan (Log.summaryEvent s) else w) w

/-- Whether the start delay still holds the next dispatch back. -/
def heldBack (w : World ρ σ) : Bool :=
  match w.nextDispatch with
  | some t => w.now < t
  | none => false

/-- Dispatch while a slot is free, a job waits and the start delay has passed. -/
def dispatchAll (plan : Plan) : Nat → World ρ σ → World ρ σ
  | 0, w => w
  | fuel + 1, w =>
    if !w.pool.canDispatch || w.heldBack then w
    else
      match w.pool.dispatchNext w.now with
      | (some (key, d), p) =>
        let a : Active σ := ⟨key, d, .fresh⟩
        let w := { w with pool := p, live := w.live ++ [a] }
        let w := w.enqueue (.worker key)
        let w := w.note plan (coordinatorEvent .debug "dispatching task"
          [("task_index", .nat d.taskIndex), ("worker_id", .nat d.workerId),
           ("kind", .str d.job.kind), ("task", .shown d.job.identity)])
        let next := if plan.spacing > 0 then some (w.now + plan.spacing) else w.nextDispatch
        dispatchAll plan fuel { w with nextDispatch := next }
      | (none, p) => { w with pool := p }

/-- Trip the breaker if the counters call for it. -/
def testBreaker (plan : Plan) (w : World ρ σ) : World ρ σ :=
  let cfg := plan.config.autoStop
  if !cfg.enabled || w.pool.shutdownRequested then w
  else
    match Breaker.evaluate w.pool.consecutiveFailures w.pool.totalCompleted w.pool.failed cfg with
    | none => w
    | some t =>
      let w := w.note plan (coordinatorEvent .warn "auto-stop triggered, cancelling remaining work"
        [("trip", .shown t.text), ("in_flight", .nat w.pool.inFlight.length),
         ("pending", .nat w.pool.pending.length)])
      let w := { w with trip := some t, pool := w.pool.requestShutdown.2 }
      w.askStop

/-- Take a finished job out of flight, count it, hand it to the sinks, and test the breaker. -/
def consolidate (plan : Plan) (w : World ρ σ) (key : Nat) (r : Except String Outcome) : World ρ σ :=
  match w.pool.complete key with
  | (none, p) =>
    let w := { w with pool := p }
    w.note plan (coordinatorEvent .warn "outcome for unknown execution, ignoring" [("key", .nat key)])
  | (some entry, p) =>
    let w := { w with pool := p, recordedFor := w.recordedFor ++ [entry.dispatch] }
    let (w, outcome) := match r with
      | .ok o => (w, o)
      | .error reason =>
        (w.note plan (coordinatorEvent .error "executor produced no outcome"
          [("task_index", .nat entry.dispatch.taskIndex), ("reason", .shown reason)]),
         entry.lost reason w.now)
    let w := { w with pool := w.pool.record outcome.status }
    let w := w.note plan (coordinatorEvent .debug "task finished"
      [("task_index", .nat outcome.taskIndex), ("status", .shown outcome.status.name),
       ("consecutive_failures", .nat w.pool.consecutiveFailures),
       ("completed", .nat w.pool.totalCompleted)])
    let w := w.publish plan outcome
    w.testBreaker plan

/-- The reason a run stopped. -/
def stopReason (w : World ρ σ) : StopReason :=
  match w.trip with
  | some t => .autoStop t
  | none =>
    if w.handle.forced then .forcedShutdown
    else if w.pool.shutdownRequested then .shutdown
    else .completed

/-- End the run: account for jobs still in flight, pick the stop reason, and close the sinks. -/
def conclude (plan : Plan) (w : World ρ σ) : World ρ σ :=
  let (lost, p) := w.pool.takeInFlight
  let w := { w with pool := p }
  let w := lost.foldl (fun w entry =>
    let o := entry.lost "executor terminated without reporting an outcome" w.now
    let w := w.note plan (coordinatorEvent .error "synthesizing outcome for lost executor"
      [("task_index", .nat entry.dispatch.taskIndex), ("task", .shown o.task)])
    let w := { w with pool := w.pool.record o.status,
                      recordedFor := w.recordedFor ++ [entry.dispatch] }
    w.publish plan o) w
  let reason := w.stopReason
  let s : Summary := match w.pool.summary reason with
    | .ok s => s
    | .error _ => ⟨w.pool.total, w.pool.completed, w.pool.failed, 0, reason⟩
  let w := w.note plan (coordinatorEvent .info "run finished"
    [("total", .nat s.total), ("dispatched", .nat w.pool.dispatched),
     ("completed", .nat s.completed), ("failed", .nat s.failed), ("cancelled", .nat s.cancelled),
     ("reason", .shown s.stopReason.text)])
  let w := w.finishSinks plan s
  { w with result := some s }

/-- Take note of a stop request that the coordinator has not acted on yet. -/
def noticeStop (plan : Plan) (w : World ρ σ) : World ρ σ :=
  if w.handle.requested && !w.pool.shutdownRequested then
    let w := { w with pool := w.pool.requestShutdown.2 }
    w.note plan (coordinatorEvent .info "shutdown requested, cancelling running tasks"
      [("in_flight", .nat w.pool.inFlight.length), ("pending", .nat w.pool.pending.length)])
  else w

/-- The time of the next delayed dispatch, while one can happen. -/
def delayed (w : World ρ σ) : Option Nat :=
  if w.pool.canDispatch then w.nextDispatch else none

/-- Whether a delayed dispatch is due. -/
def dispatchDue (w : World ρ σ) : Bool :=
  match w.delayed with
  | some t => t ≤ w.now
  | none => false

/-- The coordinator's turn: go round its loop while something is ready, then wait. -/
def coordinate (plan : Plan) : Nat → World ρ σ → World ρ σ
  | 0, w => w
  | fuel + 1, w =>
    let w := w.noticeStop plan
    let w := dispatchAll plan (w.pool.pending.length + 1) w
    if w.live.isEmpty && w.joined.isEmpty && !w.pool.canDispatch then w.conclude plan
    else
      match w.joined with
      | (key, r) :: rest =>
        let w2 : World ρ σ := { w with joined := rest }
        coordinate plan fuel (w2.consolidate plan key r)
      | [] =>
        if w.handle.requested && !w.pool.shutdownRequested then coordinate plan fuel w
        else if w.dispatchDue then coordinate plan fuel w
        else
          let wait : Wait := ⟨w.delayed, !w.pool.shutdownRequested, false⟩
          { w with coordinatorWait := some (wait, w.seq), seq := w.seq + 1 }

/-- Whether the coordinator's wait has something ready besides a finished job: a stop request it
has not acted on, or a dispatch that is due. -/
def otherReady (w : World ρ σ) : Bool :=
  (w.handle.requested && !w.pool.shutdownRequested) || w.dispatchDue

/-- The coordinator wakes inside its wait. A finished job alone is taken in at once; with
something else ready too, it is taken in first when `jobFirst`, and otherwise left for the loop,
which goes round first. -/
def resume (plan : Plan) (jobFirst : Bool) (w : World ρ σ) : World ρ σ :=
  match w.joined with
  | (key, r) :: rest =>
    if jobFirst || !w.otherReady then
      let w2 : World ρ σ := { w with joined := rest }
      w2.consolidate plan key r
    else w
  | [] => w

/-- Record where a worker got to. -/
def settle (w : World ρ σ) (key : Nat) (p : Progress σ) : World ρ σ :=
  match p with
  | .waiting s wait =>
    let live := w.live.map fun x => if x.key == key then { x with phase := .waiting s wait w.seq } else x
    { w with live := live, seq := w.seq + 1 }
  | .finished o =>
    let done : Except String Outcome := .ok o
    let w2 : World ρ σ := { w with
      live := w.live.filter (·.key != key)
      joined := w.joined ++ [(key, done)]
      running := w.running - 1 }
    if w2.coordinatorWait.isSome then w2.wakeCoordinator else w2
  | .crashed m =>
    let done : Except String Outcome := .error ("executor panicked: " ++ m)
    let w2 : World ρ σ := { w with
      live := w.live.filter (·.key != key)
      joined := w.joined ++ [(key, done)]
      running := w.running - 1 }
    if w2.coordinatorWait.isSome then w2.wakeCoordinator else w2

/-- A worker's turn. -/
def work (runner : Runner ρ σ) (w : World ρ σ) (key : Nat) : World ρ σ :=
  match w.live.find? (·.key == key) with
  | none => w
  | some e =>
    match e.phase with
    | .fresh =>
      let w2 : World ρ σ := { w with
        executed := w.executed + 1
        running := w.running + 1
        peak := max w.peak (w.running + 1) }
      let st := runner.start w2.shared e.dispatch w2.now w2.signals
      ({ w2.emit st.events with shared := st.shared }).settle key st.progress
    | .ready s =>
      let st := runner.resume w.shared s w.now w.signals
      ({ w.emit st.events with shared := st.shared }).settle key st.progress
    | .waiting _ _ _ => w

/-- A stop request's turn: deliver it when its time has come, else wait for it. -/
def deliver (w : World ρ σ) (i : Nat) : World ρ σ :=
  match w.requests.find? (·.1 == i) with
  | none => w
  | some (_, r) =>
    if r.at_ ≤ w.now then
      let w2 : World ρ σ := { w with requests := w.requests.filter (·.1 != i) }
      match r.request with
      | .shutdown => w2.askStop
      | .force => w2.forceStop
    else
      let requests := w.requests.map fun x => if x.1 == i then (i, { r with seq := some w.seq }) else x
      { w with requests := requests, seq := w.seq + 1 }

/-- The deadlines that are armed, with who waits for each and in which order they were set. -/
def deadlines (w : World ρ σ) : List (Nat × Nat × Actor) :=
  (match w.coordinatorWait with
   | some (⟨some t, _, _⟩, s) => [(t, s, Actor.coordinator)]
   | _ => []) ++
  w.live.filterMap (fun e => match e.phase with
    | .waiting _ ⟨some t, _, _⟩ s => some (t, s, Actor.worker e.key)
    | _ => none) ++
  w.requests.filterMap (fun (i, r) => match r.seq with
    | some s => some (r.at_, s, Actor.request i)
    | none => none)

/-- Wake one actor whose deadline has come. -/
def wakeDue (w : World ρ σ) (a : Actor) : World ρ σ :=
  match a with
  | .coordinator => w.wakeCoordinator
  | .worker k => w.wakeWorker k
  | .request i =>
    let requests := w.requests.map fun x => if x.1 == i then (i, { x.2 with seq := none }) else x
    { w with requests := requests, queue := w.queue ++ [Actor.request i] }

/-- Put an armed deadline after every one that comes no later: an earlier time first, and on
the same time the one set first. -/
def insertDue (d : Nat × Nat × Actor) : List (Nat × Nat × Actor) → List (Nat × Nat × Actor)
  | [] => [d]
  | e :: rest =>
    if e.1 < d.1 || (e.1 == d.1 && e.2.1 ≤ d.2.1) then e :: insertDue d rest else d :: e :: rest

/-- Move the clock to `t` and wake, in the order their deadlines were set, all who wait for a
time not after it. -/
def advance (w : World ρ σ) (t : Nat) : World ρ σ :=
  let due := ((w.deadlines.filter (·.1 ≤ t)).foldl (fun ds d => insertDue d ds) []).map (·.2.2)
  let w2 : World ρ σ := { w with now := t }
  due.foldl wakeDue w2

/-- One turn: run the first in the queue, or move the clock when nobody is ready. A coordinator
woken with a finished job and something else ready takes the job in first when `jobFirst`.
`none` when nothing will ever happen again, or the next thing would happen at `limit` or
later. -/
def turn (plan : Plan) (runner : Runner ρ σ) (limit : Nat) (jobFirst : Bool) (w : World ρ σ) :
    Option (World ρ σ) :=
  match w.queue with
  | a :: rest =>
    let w := { w with queue := rest }
    some (match a with
      | .coordinator =>
        if w.result.isSome then w
        else
          coordinate plan (w.joined.length + w.live.length + w.pool.pending.length + 4)
            (w.resume plan jobFirst)
      | .worker k => w.work runner k
      | .request i => w.deliver i)
  | [] =>
    match (w.deadlines.map (·.1)).min? with
    | some t => if t ≥ limit then none else some (w.advance (max t w.now))
    | none => none

/-- Take turns until the run ends, the clock would reach `limit`, or `fuel` runs out, each
coordinator's turn taking a finished job first or not as `jobFirst` says. -/
def steps (plan : Plan) (runner : Runner ρ σ) (limit : Nat) (jobFirst : Bool) :
    Nat → World ρ σ → World ρ σ
  | 0, w => w
  | fuel + 1, w =>
    if w.result.isSome then w
    else
      match w.turn plan runner limit jobFirst with
      | some w2 => steps plan runner limit jobFirst fuel w2
      | none => w

end World

/-- The span of a run. -/
def runSpan (runner : String) (total : Nat) : Log.Span :=
  { name := "run", target := "fanrun_core::scheduler", level := .debug,
    fields := [("runner", .str runner), ("total", .nat total)] }

/-- The settings the coordinator of a run of `jobs` with `runner` under `cfg` works with. -/
def launchPlan {ρ σ : Type} (cfg : Config) (runner : Runner ρ σ) (sinks : List Sink)
    (jobs : List Job) : Plan :=
  let spacing := match cfg.limits.taskStartDelay with
    | .ok d => d.ceilMillis
    | .error _ => 0
  { config := cfg, sinks, spacing, span := runSpan runner.name jobs.length }

/-- The world a run starts in: a fresh pool, the coordinator and the stop requests queued, the
events of the runner's check first in the log, then the run's start. -/
def launchWorld {ρ σ : Type} (cfg : Config) (runner : Runner ρ σ) (shared : ρ) (sinks : List Sink)
    (jobs : List Job) (requests : List (Nat × Request)) (checked : List Log.Event) : World ρ σ :=
  let plan := launchPlan cfg runner sinks jobs
  let pending := requests.zipIdx.map fun ((t, r), i) => (i, ({ at_ := t, request := r } : Pending))
  let w : World ρ σ := {
    shared
    pool := Pool.make jobs cfg.limits.maxWorkers
    requests := pending
    queue := Actor.coordinator :: (requests.zipIdx.map fun (_, i) => Actor.request i)
    log := checked }
  w.note plan (coordinatorEvent .info "run started"
    [("total", .nat jobs.length), ("max_workers", .nat cfg.limits.maxWorkers),
     ("auto_stop", .bool cfg.autoStop.enabled)])

/-- The run after its checks: turns are taken from the start world until the run ends. Woken
with a finished job and a stop request or a due dispatch at once, the coordinator goes round its
loop first. -/
def launchRun {ρ σ : Type} (cfg : Config) (runner : Runner ρ σ) (shared : ρ) (sinks : List Sink)
    (jobs : List Job) (requests : List (Nat × Request)) (limit : Nat) (checked : List Log.Event) :
    World ρ σ :=
  let fuel := (limit + 2) * (4 * jobs.length + 2 * requests.length + 8)
  (launchWorld cfg runner shared sinks jobs requests checked).steps
    (launchPlan cfg runner sinks jobs) runner limit false fuel

/-- Run `jobs` with `runner` under `cfg`, starting from the shared state `shared`, with stop
requests from outside at the given times, and give up when the clock would reach `limit`. The
configuration is checked first, then the runner checks the job set; a refusal comes with the
events the check reported. The result holds the summary once the run ended. -/
def runJobs {ρ σ : Type} (cfg : Config) (runner : Runner ρ σ) (shared : ρ) (sinks : List Sink)
    (jobs : List Job) (requests : List (Nat × Request)) (limit : Nat) :
    Except (StartError × List Log.Event) (World ρ σ) :=
  match cfg.problems with
  | [] =>
    let span := runSpan runner.name jobs.length
    let checked := (runner.checkEvents jobs).map (·.within span)
    match runner.check jobs with
    | .ok () => .ok (launchRun cfg runner shared sinks jobs requests limit checked)
    | .error e => .error (.runner runner.name e, checked)
  | ps => .error (.config ps, [])

end Fanout
