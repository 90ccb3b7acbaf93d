import Fanout.Run.Stop
import Fanout.Count

/-!
# Run summaries

The counts of one run: jobs in total, successes, failures, and the rest, which were cancelled
or never started, with the reason the run stopped. A summary made by `Summary.make` is
consistent: its three parts add up to the total, as long as the successes and failures do not
exceed it.
-/

namespace Fanout

/-- The counts of a finished run. -/
structure Summary where
  total : Nat
  completed : Nat
  failed : Nat
  cancelled : Nat
  stopReason : StopReason
  deriving Inhabited

namespace Summary

/-- The summary of a run with the given counts: the cancelled count is what the total leaves
after successes and failures, or zero. Their sum must fit a word. -/
def make (total completed failed : Nat) (reason : StopReason) : Except Abort Summary := do
  let done ← addCounts completed failed
  return { total, completed, failed, cancelled := total - done, stopReason := reason }

/-- The percentage of jobs that succeeded; zero for an empty run. -/
def successRate (s : Summary) : Float :=
  if s.total = 0 then 0.0
  else Count.toFloat s.completed / Count.toFloat s.total * 100.0

/-- Whether the parts add up to the total; the sums must fit a word. -/
def isConsistent (s : Summary) : Except Abort Bool := do
  let a ← addCounts s.completed s.failed
  let b ← addCounts a s.cancelled
  return b == s.total

/-- The wire form. -/
def toJson (s : Summary) : Json :=
  .obj [("total", Json.nat s.total), ("completed", Json.nat s.completed),
    ("failed", Json.nat s.failed), ("cancelled", Json.nat s.cancelled),
    ("stopReason", s.stopReason.toJson)]

open Json.Decoder in
/-- Read the wire form; every member is required. -/
def decoder : Json.Decoder Summary :=
  record "struct RunSummary"
    [Field.of "total" usize (fun v (s : Summary) => { s with total := v }) true,
     Field.of "completed" usize (fun v (s : Summary) => { s with completed := v }) true,
     Field.of "failed" usize (fun v (s : Summary) => { s with failed := v }) true,
     Field.of "cancelled" usize (fun v (s : Summary) => { s with cancelled := v }) true,
     Field.of "stopReason" StopReason.decoder (fun v (s : Summary) => { s with stopReason := v }) true]
    ⟨0, 0, 0, 0, .completed⟩

end Summary

end Fanout
