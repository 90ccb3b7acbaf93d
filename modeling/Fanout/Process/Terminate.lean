/-!
# Terminating a child process

The supervisor stops a child in two steps: `SIGTERM`, a grace period for the child to exit, and
then `SIGKILL`. A stop already forced when the termination starts skips `SIGTERM`. The wait after
`SIGTERM` ends on whichever comes first of the child's exit, the end of the grace period and the
forced stop; only the exit spares the child `SIGKILL`.

Each signal goes to the child's process group when groups are used and the system names a group
for the child other than the engine's own; when the group cannot be signalled, the signal goes to
the child alone instead. In every other case it goes to the child alone. The system's answers
are parameters of the termination: the engine's group, the child's group (none when the lookup
fails), and whether signalling the child's group works.

A child that was already reaped has no process id, and its termination does nothing.
-/

namespace Fanout

/-- The two signals of a termination. -/
inductive Signal where
  | term
  | kill
  deriving DecidableEq, Repr

/-- The number of the signal. -/
def Signal.number : Signal → Nat
  | .term => 15
  | .kill => 9

/-- What the system answers the calls a termination makes. -/
structure GroupCalls where
  /-- The engine's own process group. -/
  ownGroup : Nat
  /-- The process group of the child, or none when the lookup fails. -/
  childGroup : Option Nat
  /-- Whether signalling the child's group succeeds, for each signal. -/
  groupAccepts : Signal → Bool

/-- Where the signals of a termination go. -/
inductive Target where
  /-- The child's process group, with the child itself as the fallback. -/
  | group (pgid pid : Nat)
  | process (pid : Nat)
  deriving DecidableEq, Repr

/-- A call that sends a signal: to a process group, or to one process. -/
inductive Kill where
  | group (pgid : Nat) (sig : Signal)
  | process (pid : Nat) (sig : Signal)
  deriving DecidableEq, Repr

/-- The signal a call sends. -/
def Kill.signal : Kill → Signal
  | .group _ sig => sig
  | .process _ sig => sig

namespace GroupCalls

/-- Where the signals for child `pid` go: its group when groups are used and the system names
one other than the engine's own, else the child alone. -/
def resolve (os : GroupCalls) (pid : Nat) (useGroups : Bool) : Target :=
  if !useGroups then .process pid
  else
    match os.childGroup with
    | some g => if g = os.ownGroup then .process pid else .group g pid
    | none => .process pid

/-- The calls that send `sig` to `t`; a group that cannot be signalled falls back to the child. -/
def send (os : GroupCalls) : Target → Signal → List Kill
  | .group g pid, sig => if os.groupAccepts sig then [.group g sig] else [.group g sig, .process pid sig]
  | .process pid, sig => [.process pid sig]

end GroupCalls

/-- How the wait after `SIGTERM` ended: the first of the child's exit, the end of the grace
period and the forced stop. -/
inductive Wake where
  | exited
  | graceOver
  | forced
  deriving DecidableEq, Repr

/-- The signals of a termination, in order: only `SIGKILL` when the stop is forced on entry;
else `SIGTERM`, then `SIGKILL` unless the child exited during the wait. -/
def escalate (forcedOnEntry : Bool) (wake : Wake) : List Signal :=
  if forcedOnEntry then [.kill]
  else
    match wake with
    | .exited => [.term]
    | .graceOver | .forced => [.term, .kill]

/-- The calls that terminate the child with process id `pid` (none once it was reaped). -/
def terminate (os : GroupCalls) (pid : Option Nat) (useGroups forcedOnEntry : Bool) (wake : Wake) :
    List Kill :=
  match pid with
  | none => []
  | some pid => (escalate forcedOnEntry wake).flatMap (os.send (os.resolve pid useGroups))

end Fanout
