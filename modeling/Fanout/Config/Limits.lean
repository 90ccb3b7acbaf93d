import Fanout.Json.Decode
import Fanout.Duration

/-!
# Run limits

How many workers run at once, how long a job may take, how often the scheduler wakes up, how
far apart dispatches are, and how much output is kept, with the ceilings that bound the first
three. Every field has a default.

`Limits.clamp` lowers each requested value that exceeds its ceiling to the ceiling and notes
each change; `Limits.problems` lists the rule violations in a fixed order.
-/

namespace Fanout

/-- The longest timeout a ceiling may allow: thirty days, in seconds. -/
def timeoutCeiling : Nat := 30 * 24 * 60 * 60

/-- Worker, time and output limits of a run. -/
structure Limits where
  maxWorkers : Nat := 20
  timeoutSecs : Nat := 600
  waitTimeSecs : Float := 0.1
  taskStartDelaySecs : Float := 0.0
  maxOutputCapture : Nat := 1000
  maxAllowedWorkers : Nat := 100
  maxAllowedTimeout : Nat := 3600
  maxAllowedOutput : Nat := 10000
  deriving Inhabited

/-- A requested value lowered to its ceiling. -/
structure ClampNote where
  /-- The field that was lowered. -/
  field : String
  requested : Nat
  limit : Nat
  deriving Inhabited, DecidableEq, Repr

/-- The text that reports a lowered value. -/
def ClampNote.message (n : ClampNote) : String :=
  n.field ++ " exceeds limit, using limit"

namespace Limits

/-- The limit on the run time of one job. -/
def timeout (l : Limits) : Duration := Duration.ofSeconds l.timeoutSecs

/-- The longest the scheduler sleeps between checks. -/
def waitTime (l : Limits) : Except SecondsFault Duration := Duration.ofSecondsFloat l.waitTimeSecs

/-- The least time between two dispatches. -/
def taskStartDelay (l : Limits) : Except SecondsFault Duration :=
  Duration.ofSecondsFloat l.taskStartDelaySecs

/-- Lower the worker count, the timeout and the output size to their ceilings, noting each
change in that order. -/
def clamp (l : Limits) : Limits × List ClampNote :=
  let (l, n1) :=
    if l.maxWorkers > l.maxAllowedWorkers then
      ({ l with maxWorkers := l.maxAllowedWorkers },
        [⟨"max_workers", l.maxWorkers, l.maxAllowedWorkers⟩])
    else (l, [])
  let (l, n2) :=
    if l.timeoutSecs > l.maxAllowedTimeout then
      ({ l with timeoutSecs := l.maxAllowedTimeout },
        [⟨"timeout_secs", l.timeoutSecs, l.maxAllowedTimeout⟩])
    else (l, [])
  let (l, n3) :=
    if l.maxOutputCapture > l.maxAllowedOutput then
      ({ l with maxOutputCapture := l.maxAllowedOutput },
        [⟨"max_output_capture", l.maxOutputCapture, l.maxAllowedOutput⟩])
    else (l, [])
  (l, n1 ++ n2 ++ n3)

/-- The violated rules, in order. A NaN wait or delay counts as too small. -/
def problems (l : Limits) : List String :=
  (if l.maxWorkers = 0 then ["max_workers must be positive"] else []) ++
  (if l.timeoutSecs = 0 then ["timeout_secs must be positive"] else []) ++
  (if l.timeoutSecs > l.maxAllowedTimeout then
    ["timeout_secs cannot exceed max_allowed_timeout (" ++ toString l.maxAllowedTimeout ++ ")"]
   else []) ++
  (if l.maxAllowedTimeout > timeoutCeiling then
    ["max_allowed_timeout cannot exceed " ++ toString timeoutCeiling ++ " seconds"] else []) ++
  (if l.waitTimeSecs.isNaN || l.waitTimeSecs < 0.01 then
    ["wait_time_secs must be at least 0.01 seconds"] else []) ++
  (if l.waitTimeSecs > 10.0 then ["wait_time_secs cannot exceed 10 seconds"] else []) ++
  (if l.taskStartDelaySecs.isNaN || l.taskStartDelaySecs < 0.0 then
    ["task_start_delay_secs cannot be negative"] else []) ++
  (if l.taskStartDelaySecs > 60.0 then ["task_start_delay_secs cannot exceed 60 seconds"] else [])

/-- The wire form. -/
def toJson (l : Limits) : Json :=
  .obj [("max_workers", Json.nat l.maxWorkers), ("timeout_secs", Json.nat l.timeoutSecs),
    ("wait_time_secs", Json.float l.waitTimeSecs),
    ("task_start_delay_secs", Json.float l.taskStartDelaySecs),
    ("max_output_capture", Json.nat l.maxOutputCapture),
    ("max_allowed_workers", Json.nat l.maxAllowedWorkers),
    ("max_allowed_timeout", Json.nat l.maxAllowedTimeout),
    ("max_allowed_output", Json.nat l.maxAllowedOutput)]

open Json.Decoder in
/-- Read the wire form; every member may be left out. -/
def decoder : Json.Decoder Limits :=
  record "struct LimitsConfig"
    [Field.of "max_workers" usize (fun v (l : Limits) => { l with maxWorkers := v }),
     Field.of "timeout_secs" u64 (fun v (l : Limits) => { l with timeoutSecs := v }),
     Field.of "wait_time_secs" f64 (fun v (l : Limits) => { l with waitTimeSecs := v }),
     Field.of "task_start_delay_secs" f64 (fun v (l : Limits) => { l with taskStartDelaySecs := v }),
     Field.of "max_output_capture" usize (fun v (l : Limits) => { l with maxOutputCapture := v }),
     Field.of "max_allowed_workers" usize (fun v (l : Limits) => { l with maxAllowedWorkers := v }),
     Field.of "max_allowed_timeout" u64 (fun v (l : Limits) => { l with maxAllowedTimeout := v }),
     Field.of "max_allowed_output" usize (fun v (l : Limits) => { l with maxAllowedOutput := v })]
    {}

theorem clamp_maxWorkers_le (l : Limits) : (l.clamp.1).maxWorkers ≤ l.maxAllowedWorkers := by
  unfold clamp
  by_cases h1 : l.maxWorkers > l.maxAllowedWorkers <;>
    by_cases h2 : l.timeoutSecs > l.maxAllowedTimeout <;>
    by_cases h3 : l.maxOutputCapture > l.maxAllowedOutput <;>
    simp [h1, h2, h3] <;> omega

end Limits

end Fanout
