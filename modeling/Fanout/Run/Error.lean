import Fanout.Json.Basic

/-!
# Why a run does not start

A run starts only with a valid configuration and a job set that its runner accepts. A runner
refuses a job set as a whole (for instance for an empty command template) or by counting the
jobs that fail its check and naming the first.
-/

namespace Fanout

/-- A runner's refusal of a job set. -/
inductive CheckError where
  /-- The job set cannot be run at all, for the given reason. -/
  | invalidTask (reason : String)
  /-- `count` jobs failed the check; `first` describes the first of them. -/
  | validation (count : Nat) (first : String)
  deriving Inhabited, DecidableEq, Repr

namespace CheckError

/-- The text of the refusal. -/
def text : CheckError → String
  | .invalidTask r => "invalid task: " ++ r
  | .validation count first => toString count ++ " task(s) failed validation: " ++ first

/-- The report of the refusal. -/
def toJson : CheckError → Json
  | .invalidTask r =>
    .obj [("error", .str "InvalidTask"), ("message", .str (CheckError.invalidTask r).text),
      ("task", .str r)]
  | .validation count first =>
    .obj [("error", .str "Validation"),
      ("message", .str (CheckError.validation count first).text),
      ("count", Json.nat count), ("first", .str first)]

end CheckError

/-- Why a run did not start. -/
inductive StartError where
  /-- The configuration breaks these rules. -/
  | config (problems : List String)
  /-- The runner named `runner` refused the job set. -/
  | runner (runner : String) (reason : CheckError)
  deriving Inhabited, DecidableEq, Repr

namespace StartError

/-- The text of the error. -/
def text : StartError → String
  | .config problems => "configuration validation failed: " ++ "; ".intercalate problems
  | .runner name reason => "runner '" ++ name ++ "' rejected the task set: " ++ reason.text

/-- The report of the error. -/
def toJson : StartError → Json
  | .config problems =>
    .obj [("error", .str "Config"), ("message", .str (StartError.config problems).text)]
  | .runner name reason =>
    .obj [("error", .str "Runner"), ("message", .str (StartError.runner name reason).text),
      ("runner", .str name), ("source", reason.toJson)]

end StartError

end Fanout
