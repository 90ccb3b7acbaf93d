import Fanout.Json.Basic

/-!
# Job errors

Why a job could not be prepared or run: a security rule refused it (a long argument, a NUL
byte, a file too large), placeholders of its template found no value, its process could not be
started, an input or output operation failed, or it ran past its timeout. Each error has a text
of its own and a text for the job's record.
-/

namespace Fanout

/-- Why one job could not be prepared or run. -/
inductive JobError where
  | security (message : String)
  | unmatchedPlaceholders (names : List String)
  | spawn (message : String)
  | io (message : String)
  | timeout (secs : Nat)
  deriving Inhabited, DecidableEq, Repr

namespace JobError

/-- The text of the error. -/
def text : JobError → String
  | .security m => m
  | .unmatchedPlaceholders names => "unmatched placeholders: " ++ ", ".intercalate names
  | .spawn m => "spawn failed: " ++ m
  | .io m => "io error: " ++ m
  | .timeout s => "timeout after " ++ toString s ++ "s"

/-- The text that a job's record carries for the error. -/
def recordText : JobError → String
  | .security m => "Security error: " ++ m
  | .timeout s => "Timeout after " ++ toString s ++ "s"
  | e => "Error: " ++ e.text

/-- The name of the kind of error. -/
def kind : JobError → String
  | .security _ => "Security"
  | .unmatchedPlaceholders _ => "UnmatchedPlaceholders"
  | .spawn _ => "Spawn"
  | .io _ => "Io"
  | .timeout _ => "Timeout"

/-- The report of the error: its kind, its two texts, and the unmatched names if any. -/
def toJson (e : JobError) : Json :=
  .obj ([("error", .str e.kind), ("message", .str e.text), ("outcome_message", .str e.recordText)] ++
    match e with
    | .unmatchedPlaceholders names => [("list", .arr (names.map Json.str))]
    | _ => [])

end JobError

end Fanout
