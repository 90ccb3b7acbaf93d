import Fanout.Json.Decode
import Fanout.Duration

/-!
# Execution settings

How a job's process is run: in its own process group or not, in a shared or a per-job workspace
directory, how long it has to stop after a termination request, and the resource limits put on
it. The workspace root, when not given, lies under the home directory.
-/

namespace Fanout

/-- The longest termination grace period, in seconds. -/
def graceCeiling : Float := 3600.0

/-- Resource limits put on each job's process; `none` leaves a limit as inherited. -/
structure Rlimits where
  maxOpenFiles : Option Nat := none
  maxFileSizeBytes : Option Nat := none
  memoryLimitMb : Option Nat := none
  disableCoreDumps : Bool := false
  deriving Inhabited, DecidableEq, Repr

namespace Rlimits

/-- No limit is set and core dumps are left alone. -/
def isEmpty (r : Rlimits) : Bool :=
  r.maxOpenFiles.isNone && r.maxFileSizeBytes.isNone && r.memoryLimitMb.isNone &&
    !r.disableCoreDumps

/-- The memory limit in bytes, saturating at the largest word. -/
def memoryLimitBytes (r : Rlimits) : Option Nat :=
  r.memoryLimitMb.map fun mb => min (mb * 1048576) (Nat.pow 2 64 - 1)

/-- The wire form. -/
def toJson (r : Rlimits) : Json :=
  let opt : Option Nat → Json := fun o => match o with
    | some n => Json.nat n
    | none => .null
  .obj [("max_open_files", opt r.maxOpenFiles), ("max_file_size_bytes", opt r.maxFileSizeBytes),
    ("memory_limit_mb", opt r.memoryLimitMb), ("disable_core_dumps", .bool r.disableCoreDumps)]

open Json.Decoder in
/-- Read the wire form; every member may be left out. -/
def decoder : Json.Decoder Rlimits :=
  record "struct RlimitConfig"
    [Field.of "max_open_files" (option u64) (fun v (r : Rlimits) => { r with maxOpenFiles := v }),
     Field.of "max_file_size_bytes" (option u64)
      (fun v (r : Rlimits) => { r with maxFileSizeBytes := v }),
     Field.of "memory_limit_mb" (option u64) (fun v (r : Rlimits) => { r with memoryLimitMb := v }),
     Field.of "disable_core_dumps" bool (fun v (r : Rlimits) => { r with disableCoreDumps := v })]
    {}

end Rlimits

/-- Process settings of a run. -/
structure Execution where
  useProcessGroups : Bool := true
  workspaceIsolation : Bool := false
  /-- The workspace root as given; `none` means the default under the home directory. -/
  workspaceRoot : Option String := none
  terminationGraceSecs : Float := 5.0
  rlimits : Rlimits := {}
  deriving Inhabited

namespace Execution

/-- The workspace root, defaulting to `fanrun/workspace` under `home`. -/
def root (e : Execution) (home : String) : String :=
  e.workspaceRoot.getD (home ++ "/fanrun/workspace")

/-- The grace period, capped at an hour; a value that makes no duration gives zero. A NaN grace
is capped too. -/
def terminationGrace (e : Execution) : Duration :=
  let capped := if e.terminationGraceSecs ≤ graceCeiling then e.terminationGraceSecs else graceCeiling
  match Duration.ofSecondsFloat capped with
  | .ok d => d
  | .error _ => ⟨0⟩

/-- The violated rules, in order. -/
def problems (e : Execution) : List String :=
  (if !e.terminationGraceSecs.isFinite || e.terminationGraceSecs ≤ 0.0 then
    ["termination_grace_secs must be positive"]
   else if e.terminationGraceSecs > graceCeiling then
    ["termination_grace_secs cannot exceed 3600 seconds"]
   else []) ++
  (if e.workspaceRoot == some "" then ["workspace_root cannot be empty"] else []) ++
  (if e.rlimits.maxOpenFiles == some 0 then ["rlimits.max_open_files must be positive"] else []) ++
  (if e.rlimits.memoryLimitMb == some 0 then ["rlimits.memory_limit_mb must be positive"] else [])

/-- The wire form; the workspace root appears only when it was given. -/
def toJson (e : Execution) : Json :=
  .obj ([("use_process_groups", .bool e.useProcessGroups),
    ("workspace_isolation", .bool e.workspaceIsolation)] ++
    (match e.workspaceRoot with
     | some r => [("workspace_root", .str r)]
     | none => []) ++
    [("termination_grace_secs", Json.float e.terminationGraceSecs),
     ("rlimits", e.rlimits.toJson)])

open Json.Decoder in
/-- Read the wire form; every member may be left out. -/
def decoder : Json.Decoder Execution :=
  record "struct ExecutionConfig"
    [Field.of "use_process_groups" bool (fun v (e : Execution) => { e with useProcessGroups := v }),
     Field.of "workspace_isolation" bool
      (fun v (e : Execution) => { e with workspaceIsolation := v }),
     Field.of "workspace_root" path (fun v (e : Execution) => { e with workspaceRoot := some v }),
     Field.of "termination_grace_secs" f64
      (fun v (e : Execution) => { e with terminationGraceSecs := v }),
     Field.of "rlimits" Rlimits.decoder (fun v (e : Execution) => { e with rlimits := v })]
    {}

end Execution

end Fanout
