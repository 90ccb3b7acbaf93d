import Fanout.Config.Limits
import Fanout.Config.Execution

/-!
# Engine configuration

The four sections of a run's configuration: limits, security bounds on inputs, process
execution, and the circuit breaker. Every member of every section has a default, so `{}` is a
complete configuration.

`Config.problems` lists every violated rule, section by section; a configuration is valid when
the list is empty. `Config.clamp` lowers the limits to their ceilings and leaves the rest.
-/

namespace Fanout

/-- Bounds on what a job may bring in. -/
structure Security where
  maxArgumentLength : Nat := 1000
  maxTaskFileSize : Nat := 1048576
  deriving Inhabited, DecidableEq, Repr

namespace Security

/-- The violated rules, in order. -/
def problems (s : Security) : List String :=
  (if s.maxArgumentLength = 0 then ["max_argument_length must be positive"] else []) ++
  (if s.maxTaskFileSize = 0 then ["max_task_file_size must be positive"] else [])

/-- The wire form. -/
def toJson (s : Security) : Json :=
  .obj [("max_argument_length", Json.nat s.maxArgumentLength),
    ("max_task_file_size", Json.nat s.maxTaskFileSize)]

open Json.Decoder in
/-- Read the wire form; every member may be left out. -/
def decoder : Json.Decoder Security :=
  record "struct SecurityConfig"
    [Field.of "max_argument_length" usize
      (fun v (s : Security) => { s with maxArgumentLength := v }),
     Field.of "max_task_file_size" u64 (fun v (s : Security) => { s with maxTaskFileSize := v })]
    {}

end Security

/-- When the circuit breaker stops a run. -/
structure AutoStop where
  enabled : Bool := false
  maxConsecutiveFailures : Nat := 5
  maxFailureRate : Float := 0.5
  minTasksForRateCheck : Nat := 10
  deriving Inhabited

namespace AutoStop

/-- The violated rules, in order. They apply whether or not the breaker is enabled. -/
def problems (a : AutoStop) : List String :=
  (if a.maxConsecutiveFailures = 0 then ["max_consecutive_failures must be positive"] else []) ++
  (if 0.0 ≤ a.maxFailureRate && a.maxFailureRate ≤ 1.0 then []
   else ["max_failure_rate must be between 0 and 1"])

/-- The wire form. -/
def toJson (a : AutoStop) : Json :=
  .obj [("enabled", .bool a.enabled),
    ("max_consecutive_failures", Json.nat a.maxConsecutiveFailures),
    ("max_failure_rate", Json.float a.maxFailureRate),
    ("min_tasks_for_rate_check", Json.nat a.minTasksForRateCheck)]

open Json.Decoder in
/-- Read the wire form; every member may be left out. -/
def decoder : Json.Decoder AutoStop :=
  record "struct AutoStopConfig"
    [Field.of "enabled" bool (fun v (a : AutoStop) => { a with enabled := v }),
     Field.of "max_consecutive_failures" u32
      (fun v (a : AutoStop) => { a with maxConsecutiveFailures := v }),
     Field.of "max_failure_rate" f64 (fun v (a : AutoStop) => { a with maxFailureRate := v }),
     Field.of "min_tasks_for_rate_check" u64
      (fun v (a : AutoStop) => { a with minTasksForRateCheck := v })]
    {}

end AutoStop

/-- A run's whole configuration. -/
structure Config where
  limits : Limits := {}
  security : Security := {}
  execution : Execution := {}
  autoStop : AutoStop := {}
  deriving Inhabited

namespace Config

/-- Every violated rule: limits, security, execution, then the breaker. -/
def problems (c : Config) : List String :=
  c.limits.problems ++ c.security.problems ++ c.execution.problems ++ c.autoStop.problems

/-- The text of a refused configuration. -/
def problemText (errors : List String) : String :=
  "configuration validation failed: " ++ "; ".intercalate errors

/-- Accept a configuration without problems, or give the text of its problems. -/
def validate (c : Config) : Except String Unit :=
  match c.problems with
  | [] => .ok ()
  | errors => .error (problemText errors)

/-- The configuration with its limits lowered to their ceilings, and the notes of the changes. -/
def clamp (c : Config) : Config × List ClampNote :=
  let (l, notes) := c.limits.clamp
  ({ c with limits := l }, notes)

/-- The wire form. -/
def toJson (c : Config) : Json :=
  .obj [("limits", c.limits.toJson), ("security", c.security.toJson),
    ("execution", c.execution.toJson), ("auto_stop", c.autoStop.toJson)]

open Json.Decoder in
/-- Read the wire form; every member may be left out. -/
def decoder : Json.Decoder Config :=
  record "struct EngineConfig"
    [Field.of "limits" Limits.decoder (fun v (c : Config) => { c with limits := v }),
     Field.of "security" Security.decoder (fun v (c : Config) => { c with security := v }),
     Field.of "execution" Execution.decoder (fun v (c : Config) => { c with execution := v }),
     Field.of "auto_stop" AutoStop.decoder (fun v (c : Config) => { c with autoStop := v })]
    {}

end Config

end Fanout
