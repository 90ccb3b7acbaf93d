import Fanout.Job.Outcome
import Fanout.Job.Error
import Fanout.Text.Utf8

/-!
# Watching a child process

While a child runs, its supervisor waits on six things at once: the job's cancellation, the
child's exit, the deadline, a read of the child's standard output, a read of its standard
error, and the next resource sample. Whenever some are ready it takes them one at a time, each
time the first ready one in that order, so a cancellation goes before an exit, an exit before
the deadline, and all three before the pipes and the samples. The first of them that is a
cancellation, an exit (or a failure to wait for one) or the deadline ends the watch. The pipes
are then drained into the same buffers, until each ends or fails or the drain's time is up, and
the record is sealed by how the watch ended. After a cancellation, a deadline or a failed wait
the supervisor terminates the child before it drains.

A run is given as its trace: what becomes ready, grouped by the instant it does so, in order.
Everything that becomes ready together is there when the supervisor next looks, and it takes
all of it before it waits again. Reads after the end of the watch are the drain's, and the
trace ends where the drain stops. A trace that runs out before the watch ends comes to the
deadline, which always comes.
-/

namespace Fanout

/-- How a process ended. -/
inductive Exit where
  | code (n : Nat)
  | signal (n : Nat)
  deriving Inhabited, Repr, BEq

/-- One write to a pipe: when, which stream (1 or 2), and the bytes. -/
structure Output where
  time : Nat
  stream : Nat
  bytes : List UInt8
  deriving Inhabited, Repr

/-- One read of a pipe: the bytes it gave, none at the end of the stream, or a failure. -/
inductive Read where
  | data (bytes : List UInt8)
  | failed
  deriving Inhabited, Repr, DecidableEq

/-- What can become ready while a child is watched. -/
inductive Ready where
  | cancel
  | exit (e : Exit)
  | waitFailed (message : String)
  | deadline
  | stdout (r : Read)
  | stderr (r : Read)
  | tick (memoryMb cpuPercent : Float)
  deriving Inhabited

/-- Why the supervisor stopped watching the child. -/
inductive ChildEnd where
  | exited (e : Exit)
  | waitFailed (message : String)
  | timedOut
  | cancelled
  deriving Inhabited, Repr, BEq

namespace Ready

def isCancel : Ready → Bool
  | .cancel => true
  | _ => false

def isDeadline : Ready → Bool
  | .deadline => true
  | _ => false

/-- What waiting for the child gave, when this is its answer. -/
def waited : Ready → Option ChildEnd
  | .exit e => some (.exited e)
  | .waitFailed m => some (.waitFailed m)
  | _ => none

def stdoutRead : Ready → Option Read
  | .stdout r => some r
  | _ => none

def stderrRead : Ready → Option Read
  | .stderr r => some r
  | _ => none

def sample : Ready → Option (Float × Float)
  | .tick m c => some (m, c)
  | _ => none

end Ready

/-- A pipe as its reader holds it: whether it is still read, and the bytes read from it. -/
structure Pipe where
  reading : Bool := true
  bytes : List UInt8 := []
  deriving Inhabited, Repr

/-- Take one read: its bytes are kept, and the end of the stream or a failure stops the reading.
A pipe no longer read takes nothing. -/
def Pipe.take (p : Pipe) (r : Read) : Pipe :=
  if p.reading then
    match r with
    | .data [] => { p with reading := false }
    | .data bs => { p with bytes := p.bytes ++ bs }
    | .failed => { p with reading := false }
  else p

/-- How a batch of ready events ends the watch, if it does: by the first of cancellation, the
child's exit or a failed wait, and the deadline that is in it. -/
def stopIn (b : List Ready) : Option ChildEnd :=
  if b.any Ready.isCancel then some .cancelled
  else
    match b.findSome? Ready.waited with
    | some e => some e
    | none => if b.any Ready.isDeadline then some .timedOut else none

/-- What the supervisor holds while it watches: the record, which keeps the largest resource
samples, and the two pipes. -/
structure Watch where
  outcome : Outcome
  out : Pipe := {}
  err : Pipe := {}

namespace Watch

/-- Take every read and sample of a batch that does not end the watch: the standard output's
reads while it is read, then the standard error's, then the samples. -/
def serve (w : Watch) (b : List Ready) : Watch :=
  { outcome := (b.filterMap Ready.sample).foldl (fun o s => o.observe s.1 s.2) w.outcome
    out := (b.filterMap Ready.stdoutRead).foldl Pipe.take w.out
    err := (b.filterMap Ready.stderrRead).foldl Pipe.take w.err }

/-- Read both pipes on through what is left of the trace. -/
def drain (w : Watch) (rest : List (List Ready)) : Watch :=
  { w with
    out := (rest.flatten.filterMap Ready.stdoutRead).foldl Pipe.take w.out
    err := (rest.flatten.filterMap Ready.stderrRead).foldl Pipe.take w.err }

end Watch

/-- Watch through `trace` up to the first batch that ends the watch: how it ended, what the
supervisor holds then, and the trace from that batch on, whose reads are left to the drain. -/
def watch (w : Watch) : List (List Ready) → ChildEnd × Watch × List (List Ready)
  | [] => (.timedOut, w, [])
  | b :: rest =>
    match stopIn b with
    | some e => (e, w, b :: rest)
    | none => watch (w.serve b) rest

/-- The last `maxChars` characters of what a stream carried, read as UTF-8 with replacement.
Only the last `4 * maxChars + 3` bytes can matter: they hold the last `maxChars` complete
characters and at most one cut one before them. -/
def tailText (maxChars : Nat) (bytes : List UInt8) : String :=
  if maxChars == 0 then ""
  else
    let keep := 4 * maxChars + 3
    Text.lastChars maxChars (Text.decodeLossy (bytes.drop (bytes.length - keep)))

/-- The status and message of a child that exited by itself. -/
def exitRecord : Exit → Status × String
  | .code 0 => (.success, "")
  | .code c => (.failed, "Exit code " ++ toString c)
  | .signal s => (.failed, "Terminated by signal " ++ toString s)

/-- The exit code of a child that exited by itself; none when a signal ended it. -/
def exitCodeOf : Exit → Option Int
  | .code c => some c
  | .signal _ => none

/-- A record sealed by its supervisor, and whether the supervisor terminated the child. -/
structure Supervised where
  outcome : Outcome
  terminated : Bool

/-- Seal record `o` by how the watch ended; the job's timeout is `timeoutSecs` seconds. After
a cancellation, a deadline or a failed wait the supervisor terminates the child first. -/
def sealRecord (o : Outcome) (timeoutSecs : Nat) : ChildEnd → Supervised
  | .exited e =>
    let (status, message) := exitRecord e
    ⟨{ o.close status message 0 with exitCode := exitCodeOf e }, false⟩
  | .waitFailed m => ⟨o.close .error (JobError.io m).recordText 0, true⟩
  | .timedOut => ⟨o.close .timeout (JobError.timeout timeoutSecs).recordText 0, true⟩
  | .cancelled => ⟨o.close .cancelled "Task cancelled" 0, true⟩

/-- Supervise a child through `trace` and seal its record `o`, keeping the last `keep`
characters of each stream; the job's timeout is `timeoutSecs` seconds. -/
def supervise (o : Outcome) (keep timeoutSecs : Nat) (trace : List (List Ready)) :
    Supervised :=
  let (ending, w, rest) := watch { outcome := o } trace
  let w := w.drain rest
  sealRecord { w.outcome with stdout := tailText keep w.out.bytes, stderr := tailText keep w.err.bytes }
    timeoutSecs ending

end Fanout
