import Fanout.Run.Schedule

/-!
# Scripted jobs

A runner whose jobs say how they behave, used to exercise the scheduler on a clock that only
moves when nothing else can happen. A job's script is its source path, split at the first `:`
into a kind and a number of milliseconds (no `:` means zero; a number that is not a plain
unsigned 64-bit number makes the script unknown):

* `ok`, `fail`, `timeout`, `error`: wait the time, then end as a success, a failure, a timeout
  or an error; a cancellation before the time is up ends the job as cancelled. When both come
  at once the time wins.
* `hang`: cancelled once cancelled. `stubborn`: waits for the cancellation, then for the forced
  stop. `ignore`: succeeds after its time whatever happens. `linger`: once cancelled, waits its
  time, then ends as cancelled.
* `cancelled` ends cancelled at once; `pending` hands back its record unfinished.
* `panic`, `panicstr`, `panicany`: wait their time (not cancellable), then crash.
* Anything else is an error at once.
-/

namespace Fanout

/-- How a timed job ends when its time is up. -/
inductive Ending where
  | success
  | failure
  | timeout
  | error
  deriving Inhabited, DecidableEq, Repr

namespace Ending

/-- The status a timed job ends with. -/
def status : Ending → Status
  | .success => .success
  | .failure => .failed
  | .timeout => .timeout
  | .error => .error

/-- The message a timed job ends with. -/
def message : Ending → String
  | .success => ""
  | .failure => "Exit code 1"
  | .timeout => "Timeout after 1s"
  | .error => "Error: scripted"

end Ending

/-- What a script says a job does. -/
inductive Script where
  | timed (ending : Ending) (ms : Nat)
  | hang
  | stubborn
  | ignore (ms : Nat)
  | linger (ms : Nat)
  | cancelled
  | pending
  /-- Crash after `ms` with `message`. -/
  | crash (ms : Nat) (message : String)
  /-- A script that says nothing known. -/
  | unknown (text : String)
  deriving Inhabited, DecidableEq, Repr

/-- The value of a string of decimal digits with an optional leading `+`, when it fits in 64
bits. -/
def unsignedValue? (s : String) : Option Nat :=
  let digits := match s.toList with
    | '+' :: rest => rest
    | cs => cs
  if digits.isEmpty || !digits.all Char.isDigit then none
  else
    let n := digits.foldl (fun n c => 10 * n + (c.toNat - '0'.toNat)) 0
    if n ≤ wordMax then some n else none

namespace Script

/-- The script of a kind and a time; `text` is the whole script. -/
def ofKind (text kind : String) (ms : Nat) : Script :=
  match kind with
  | "ok" => .timed .success ms
  | "fail" => .timed .failure ms
  | "timeout" => .timed .timeout ms
  | "error" => .timed .error ms
  | "hang" => .hang
  | "stubborn" => .stubborn
  | "ignore" => .ignore ms
  | "linger" => .linger ms
  | "cancelled" => .cancelled
  | "pending" => .pending
  | "panic" => .crash ms "boom"
  | "panicstr" => .crash ms ("boom after " ++ toString ms ++ " ms")
  | "panicany" => .crash ms "unknown panic"
  | _ => .unknown text

/-- Read a script from a job's source path. -/
def parse (text : String) : Script :=
  match text.splitOn ":" with
  | [kind] => ofKind text kind 0
  | kind :: rest =>
    match unsignedValue? (":".intercalate rest) with
    | some ms => ofKind text kind ms
    | none => .unknown text
  | [] => .unknown text

end Script

/-- Where a scripted job stands while it waits. -/
inductive Stage where
  /-- A cancellable timer ending at `deadline`. -/
  | timed (ending : Ending) (deadline : Nat)
  | hang
  | stubborn
  /-- A timer that nothing cancels. -/
  | ignore (deadline : Nat)
  /-- Waiting for the cancellation, then `ms` more. -/
  | linger (ms : Nat)
  | lingering (deadline : Nat)
  | crash (deadline : Nat) (message : String)
  deriving Inhabited, DecidableEq, Repr

/-- A scripted job in progress: its record so far and where it stands. -/
structure Scripted where
  record : Outcome
  stage : Stage
  deriving Inhabited

namespace Stage

/-- The record of a cancelled job. -/
def cancelledRecord (o : Outcome) (now : Nat) : Outcome := o.close .cancelled "Task cancelled" now

/-- Go on from `stage` at time `now` under the signals `sig`. -/
def step (o : Outcome) (now : Nat) (sig : StopSignals) : Stage → Progress Scripted
  | .timed e t =>
    if t ≤ now then .finished (o.close e.status e.message now)
    else if sig.cancelled then .finished (cancelledRecord o now)
    else .waiting ⟨o, .timed e t⟩ ⟨some t, true, false⟩
  | .hang =>
    if sig.cancelled then .finished (cancelledRecord o now)
    else .waiting ⟨o, .hang⟩ ⟨none, true, false⟩
  | .stubborn =>
    if !sig.cancelled then .waiting ⟨o, .stubborn⟩ ⟨none, true, false⟩
    else if sig.forced then .finished (cancelledRecord o now)
    else .waiting ⟨o, .stubborn⟩ ⟨none, false, true⟩
  | .ignore t =>
    if t ≤ now then .finished (o.close .success "" now)
    else .waiting ⟨o, .ignore t⟩ ⟨some t, false, false⟩
  | .linger ms =>
    if !sig.cancelled then .waiting ⟨o, .linger ms⟩ ⟨none, true, false⟩
    else if ms = 0 then .finished (cancelledRecord o now)
    else .waiting ⟨o, .lingering (now + ms)⟩ ⟨some (now + ms), false, false⟩
  | .lingering t =>
    if t ≤ now then .finished (cancelledRecord o now)
    else .waiting ⟨o, .lingering t⟩ ⟨some t, false, false⟩
  | .crash t m =>
    if t ≤ now then .crashed m
    else .waiting ⟨o, .crash t m⟩ ⟨some t, false, false⟩

end Stage

/-- Start the job of `d` at time `now`. -/
def Script.start (script : Script) (o : Outcome) (now : Nat) (sig : StopSignals) :
    Progress Scripted :=
  match script with
  | .timed e ms => Stage.step o now sig (.timed e (now + ms))
  | .hang => Stage.step o now sig .hang
  | .stubborn => Stage.step o now sig .stubborn
  | .ignore ms => Stage.step o now sig (.ignore (now + ms))
  | .linger ms => Stage.step o now sig (.linger ms)
  | .cancelled => .finished (Stage.cancelledRecord o now)
  | .pending => .finished o
  | .crash ms m => Stage.step o now sig (.crash (now + ms) m)
  | .unknown text => .finished (o.close .error ("Error: unknown script " ++ text) now)

/-- A runner, named `name` and checking the job set with `check`, that runs each job by the
script `script` gives its dispatch. -/
def scriptRunner (name : String) (check : List Job → Except CheckError Unit)
    (script : Dispatch → Script) : Runner Unit Scripted where
  name := name
  check := check
  start _ d now sig :=
    let o := Outcome.started d.job d.taskIndex d.workerId now
    { progress := (script d).start o now sig, shared := () }
  resume _ s now sig := { progress := s.stage.step s.record now sig, shared := () }

/-- The scripted runner, named `name`, checking the job set with `check`: a job's script is
read from its source path. -/
def scriptedRunner (name : String) (check : List Job → Except CheckError Unit) :
    Runner Unit Scripted :=
  scriptRunner name check fun d => Script.parse d.job.sourcePath

end Fanout
