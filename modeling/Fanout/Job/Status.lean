import Fanout.Json.Decode

/-!
# Job status

The state of one job's record: waiting, running, or one of five final states. A final state is
a success, a failure (non-zero exit, timeout, error before or around the run) or a cancellation,
which is neither. The wire form is the upper-case name.
-/

namespace Fanout

/-- Where a job stands. -/
inductive Status where
  | pending
  | running
  | success
  | failed
  | timeout
  | error
  | cancelled
  deriving Inhabited, DecidableEq, Repr

namespace Status

/-- Every status, in declaration order. -/
def all : List Status := [.pending, .running, .success, .failed, .timeout, .error, .cancelled]

/-- The upper-case name, which is also the wire form. -/
def name : Status → String
  | .pending => "PENDING"
  | .running => "RUNNING"
  | .success => "SUCCESS"
  | .failed => "FAILED"
  | .timeout => "TIMEOUT"
  | .error => "ERROR"
  | .cancelled => "CANCELLED"

/-- A status that no longer changes. -/
def isTerminal : Status → Bool
  | .pending | .running => false
  | _ => true

/-- Only a success counts as one. -/
def isSuccess : Status → Bool
  | .success => true
  | _ => false

/-- A failed, timed-out or errored job; a cancellation is not a failure. -/
def isFailure : Status → Bool
  | .failed | .timeout | .error => true
  | _ => false

/-- The wire form. -/
def toJson (s : Status) : Json := .str s.name

/-- Read the wire form: exactly one of the upper-case names. -/
def decoder : Json.Decoder Status := Json.Decoder.named (all.map fun s => (s.name, s))

theorem name_injective {a b : Status} (h : a.name = b.name) : a = b := by
  cases a <;> cases b <;> simp_all [name]

theorem success_not_failure (s : Status) : ¬ (s.isSuccess ∧ s.isFailure) := by
  cases s <;> simp [isSuccess, isFailure]

theorem terminal_of_failure {s : Status} (h : s.isFailure) : s.isTerminal := by
  cases s <;> simp_all [isFailure, isTerminal]

end Status

end Fanout
