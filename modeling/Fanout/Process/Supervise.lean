import Fanout.Process.Watch
import Fanout.Process.Terminate
import Fanout.Host.Fs

/-!
# Supervising a child process

A task's process runs until it exits, or until the supervisor stops it: when the job is
cancelled or its deadline passes (whichever comes first; a cancellation at the deadline counts
as a cancellation), the supervisor sends `SIGTERM` (to the whole process group when groups are
used), waits the grace period for the process to exit, and then sends `SIGKILL`. A forced stop
cuts the grace period short, and a stop already forced skips `SIGTERM`.

All of this is known before the process starts, so the supervisor's signals are a schedule, and
what the process does is a function of the signals it is sent (`ChildLife`): its writes, when
and how it ends, and when the processes it leaves behind let go of its pipes. Signals reach the
processes of the group only while the task's own process lives: once it is gone the supervisor
stops signalling. After the process ends, its pipes are read for two more seconds at most, so
the output of children left behind is kept when it comes in time.

The supervised run gives the trace the supervisor watches (`watch`): the writes to the two
pipes, the deadline, the cancellation, and the process's exit when it comes before the
supervisor stops it, each at its time.

Times are in nanoseconds from the start of the process.
-/

namespace Fanout

/-- How a supervisor may stop a process, in nanoseconds from its start. -/
structure Stopping where
  cancelAt : Option Nat := none
  forceAt : Option Nat := none
  timeout : Nat
  grace : Nat
  groups : Bool := true
  deriving Inhabited, Repr

/-- The result of a supervised run: what became ready while the supervisor watched it, when
the supervisor was done, and the files afterwards. -/
structure ChildRun where
  trace : List (List Ready)
  finish : Nat
  fs : Host.Fs

/-- What a process does, told the signals it is sent: its writes and those of the processes it
leaves behind, when it ends and how, when each process it leaves behind ends (`none`: never),
and the files afterwards. The processes left behind hold its pipes open until they end. -/
structure ChildLife where
  writes : List Output
  endedAt : Nat
  exit : Exit
  leftBehind : List (Option Nat)
  fs : Host.Fs

/-- How long the pipes are read after the process is gone. -/
def drainTime : Nat := 2000000000

/-- The process group the engine runs in. -/
def engineGroup : Nat := 1

/-- The process groups as the system reports them to a termination of child `pid`: a child
started in a session of its own leads the group of its own id, any other child stays in the
engine's group. Signalling the child's group works while the child lives, and signals sent once
it is gone never reach a process. -/
def childGroups (pid : Nat) (ownSession : Bool) : GroupCalls :=
  { ownGroup := engineGroup, childGroup := some (if ownSession then pid else engineGroup),
    groupAccepts := fun _ => true }

namespace Stopping

/-- When the supervisor acts, and the signals its termination sends, with their times: `SIGTERM`
when it acts, and `SIGKILL` then too when the stop is already forced, else when the grace period
ends or the forced stop comes, whichever is first. A process gone before a signal never sees
it. -/
def plan (s : Stopping) : Nat × List (Nat × Nat) :=
  let tc := match s.cancelAt with
    | some c => min c s.timeout
    | none => s.timeout
  let forcedAlready : Bool := match s.forceAt with
    | some f => decide (f ≤ tc)
    | none => false
  let tk := match s.forceAt with
    | some f => min (tc + s.grace) f
    | none => tc + s.grace
  let wake : Wake := match s.forceAt with
    | some f => if f < tc + s.grace then .forced else .graceOver
    | none => .graceOver
  (tc, (escalate forcedAlready wake).map fun sig =>
    (if sig = .term || forcedAlready then tc else tk, sig.number))

end Stopping

/-- A write as the supervisor sees it: a read of the pipe it went to. A write of no bytes makes
no pipe ready. -/
def writeReady (o : Output) : Option (Nat × Ready) :=
  if o.bytes.isEmpty then none
  else if o.stream == 1 then some (o.time, .stdout (.data o.bytes))
  else if o.stream == 2 then some (o.time, .stderr (.data o.bytes))
  else none

/-- Events at their times as a trace: grouped by the instant, in time order, the events of one
instant in the order given. -/
def batches (es : List (Nat × Ready)) : List (List Ready) :=
  ((es.mergeSort fun a b => a.1 ≤ b.1).splitBy fun a b => a.1 == b.1).map (·.map (·.2))

/-- The run of process `pid` under the supervisor's rules `s`, where `life` is what the process
does told the signals sent to it and to the rest of its group, each with its time. -/
def superviseChild (s : Stopping) (pid : Nat)
    (life : List (Nat × Nat) → List (Nat × Nat) → ChildLife) : ChildRun :=
  let (tc, sched) := s.plan
  -- the signals reach the rest of the group only when they are sent to the group
  let group := match (childGroups pid s.groups).resolve pid s.groups with
    | .group _ _ => sched
    | .process _ => []
  let c := life sched group
  let d := c.endedAt
  let lastHolder := c.leftBehind.foldl (fun acc t => match t with
    | some t => max acc t
    | none => d + drainTime) d
  let finish := min (d + drainTime) lastHolder
  let kept := (c.writes.filter (·.time ≤ d + drainTime)).mergeSort fun a b => a.time ≤ b.time
  -- the exit is seen only when it comes before the supervisor stops the process; at `tc` the
  -- cancellation or the deadline that stops it is there
  let exits := if d < tc then [(d, Ready.exit c.exit)] else []
  let stops := (s.timeout, Ready.deadline) :: (s.cancelAt.map fun c => (c, Ready.cancel)).toList
  { trace := batches (kept.filterMap writeReady ++ exits ++ stops), finish, fs := c.fs }

end Fanout
