import Fanout.Log.Event
import Fanout.Job.Outcome
import Fanout.Run.Summary

/-!
# Reporting outcomes and summaries

Each finished job is reported at a level that follows its status: a success at `info`, a job
that could not be run at `error`, and every other status at `warn` with its status, exit code and
reason. A run's summary is reported at `info` when the run completed and at `warn` with the
reason when it stopped early; the success rate has one decimal place.
-/

namespace Fanout.Log

/-- The target of outcome reports. -/
def outcomeTarget : String := "fanrun.outcome"

/-- The target of summary reports. -/
def summaryTarget : String := "fanrun.summary"

/-- The message that goes with a status. -/
def statusMessage : Status → String
  | .success => "task succeeded"
  | .failed => "task failed"
  | .timeout => "task exceeded its timeout"
  | .cancelled => "task cancelled"
  | .error => "task could not be run"
  | .pending | .running => "task outcome is not terminal"

/-- The report of one outcome. -/
def outcomeEvent (o : Outcome) : Event :=
  let msg := statusMessage o.status
  match o.status with
  | .success =>
    { level := .info, target := outcomeTarget, message := msg,
      fields := [("task", .shown o.task), ("index", .nat o.taskIndex), ("worker", .nat o.workerId),
        ("duration_secs", .float o.durationSecs), ("memory_mb", .float o.memoryMb),
        ("cpu_percent", .float o.cpuPercent)] }
  | .error =>
    { level := .error, target := outcomeTarget, message := msg,
      fields := [("task", .shown o.task), ("index", .nat o.taskIndex), ("worker", .nat o.workerId),
        ("reason", .shown o.errorMessage)] }
  | _ =>
    { level := .warn, target := outcomeTarget, message := msg,
      fields := [("task", .shown o.task), ("index", .nat o.taskIndex), ("worker", .nat o.workerId),
        ("status", .shown o.status.name), ("exit_code", .debugged (optionText o.exitCode)),
        ("duration_secs", .float o.durationSecs), ("reason", .shown o.errorMessage)] }

/-- The report of a run's summary. -/
def summaryEvent (s : Summary) : Event :=
  let rate := Decimal.fixed 1 s.successRate ++ "%"
  let counts : List (String × Value) :=
    [("total", .nat s.total), ("completed", .nat s.completed), ("failed", .nat s.failed),
     ("cancelled", .nat s.cancelled), ("success_rate", .shown rate)]
  if s.stopReason.isEarly then
    { level := .warn, target := summaryTarget, message := "run stopped early",
      fields := counts ++ [("reason", .shown s.stopReason.text)] }
  else
    { level := .info, target := summaryTarget, message := "run completed", fields := counts }

end Fanout.Log
