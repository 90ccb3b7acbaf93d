import Fanout.Process.Supervise
import Fanout.Process.Capture
import Fanout.Command.Plan
import Fanout.Config.Basic
import Fanout.Run.Schedule

/-!
# Running jobs as processes

The process runner renders each job's command from one template and runs it as a child process
on a `Machine`. Before anything starts, a job is refused (as an error, with a warning) when its
file cannot be read or is larger than the configured size, when its command cannot be built,
when its working directory cannot be made, or when its program cannot be started; a job
cancelled before it starts ends cancelled.

The working directory is the workspace root, or with isolated workspaces the directory
`pid<engine pid>_worker<slot>` under it, made with its missing ancestors. The machine starts
the program (`Machine.start`) with the `PATH` of the child's environment to look it up in, and
says what the started process does (`Machine.run`): the runner depends on no particular system.

The child runs under `superviseChild`, and `supervise` seals its record from what the
supervisor watched: the exit code or signal, or the supervisor's reason to stop it, and the tail
of each stream. A stream's buffer that refuses a chunk (`captureFault`) stops the execution
instead, and the job breaks down with its message.

In a run, a job's process is run once when it starts, as if nothing stopped it. When the run
cancels it (or forces the stop) before it ends, it is run again with that stop at the time it
came: the machine is taken to give the same process up to that time.
-/

namespace Fanout

open Host

variable {π : Type}

/-- The machine jobs run on: its files, the directory the engine runs in (relative task files
and workspace roots are found from there), the environment children inherit, the home
directory that holds the default workspace, and the engine's process id, which names isolated
workspaces; and how its system starts a program and runs it, where `π` is what a started
program is to the system. -/
structure Machine (π : Type) where
  fs : Host.Fs
  cwd : String
  env : List (String × String)
  home : String
  enginePid : Nat
  /-- Start `program` in `workdir` with the words `argv` and the resource limits `rl`, looked up
  in `pathVar` when it is named without a slash; `prepared` when the child is set up before its
  program starts. What started and the words it is given, or why it could not start. -/
  start (fs : Host.Fs) (workdir pathVar program : String) (argv : List String) (rl : Rlimits)
    (prepared : Bool) : Except OsError (π × List String)
  /-- The process id a started process gets. -/
  childPid : Nat
  /-- What a started process does in `workdir` with the words `argv`, the environment `env` and
  the limits `rl`, told the signals sent to it and to the rest of its group. -/
  run (fs : Host.Fs) (workdir : String) (started : π) (argv : List String)
    (env : List (String × String)) (rl : Rlimits) (toProcess toGroup : List (Nat × Nat)) :
    ChildLife

/-- The event target of the process runner. -/
def procTarget : String := "fanrun.exec.proc"

/-- When a job's stop signals come, in nanoseconds from the start of its process. -/
structure StopTimes where
  cancelAt : Option Nat := none
  forceAt : Option Nat := none
  deriving Inhabited, DecidableEq, Repr

/-- What executing one job gives: the record, the events reported when the process started and
when the job ended, how long the job took in nanoseconds, the files afterwards, and how the
execution stopped if it did not give the record. -/
structure JobReport where
  outcome : Outcome
  opening : List Log.Event := []
  closing : List Log.Event := []
  elapsed : Nat := 0
  fs : Host.Fs
  fault : Option Abort := none

/-- Nanoseconds in a millisecond. -/
def nanosPerMilli : Nat := 1000000

/-- The number of bytes a node takes: a file its bytes, a directory one block. -/
def nodeSize (n : Host.Node) : Nat := n.size

/-- Refuse a job whose file cannot be read, or is larger than `maxSize` bytes. -/
def checkSource (fs : Host.Fs) (cwd path : String) (maxSize : Nat) : Except JobError Unit :=
  let missing := JobError.security ("Cannot access task file: " ++ path)
  if path.isEmpty then .error missing
  else
    match fs.stat (Text.encode cwd) (Text.encode path) with
    | .ok n => if nodeSize n > maxSize then .error (.security ("Task file too large: " ++ path)) else .ok ()
    | .error _ => .error missing

/-- The working directory of a job on worker `worker`. -/
def workdirOf (e : Execution) (home : String) (enginePid worker : Nat) : String :=
  let root := e.root home
  if e.workspaceIsolation then
    joinPath root ("pid" ++ toString enginePid ++ "_worker" ++ toString worker)
  else root

/-- The inherited environment with the command's bindings put over it. -/
def childEnv (inherited bindings : List (String × String)) : List (String × String) :=
  bindings.foldl (fun acc (k, v) => (acc.filter (·.1 != k)) ++ [(k, v)]) inherited

/-- A warning that a job was refused before its process started. -/
def refusal (message task : String) (e : JobError) : Log.Event :=
  { level := .warn, target := procTarget, message,
    fields := [("task", .shown task), ("error", .shown e.text)] }

/-- What the system says when a text handed to a new process holds a NUL. -/
def nulInData : String := "nul byte found in provided data"

/-- Whether a binding holds a NUL, which no process environment can carry. -/
def bindingHasNul (b : String × String) : Bool :=
  b.1.toList.contains (Char.ofNat 0) || b.2.toList.contains (Char.ofNat 0)

/-- Make the working directory of a job on worker `worker`, with its missing ancestors: the
files afterwards and where the directory is, or why it could not be made. -/
def resolveWorkdir (e : Execution) (m : Machine π) (worker : Nat) :
    Except JobError (Host.Fs × String) :=
  let dir := Text.encode (workdirOf e m.home m.enginePid worker)
  match m.fs.mkdirAll m.cwd dir with
  | .error err => .error (.io err.text)
  | .ok fs =>
    .ok (fs, match fs.resolve m.cwd dir with
      | .ok p => p
      | .error _ => dir)

/-- The environment of a command's process: the machine's, with the command's bindings over it. -/
def childEnvOf (m : Machine π) (cmd : Rendered) : List (String × String) :=
  (childEnv m.env cmd.env).map fun (k, v) => (Text.encode k, Text.encode v)

/-- Start the process of command `cmd` in `workdir` on files `fs`: what started and the words
it is given, or why it cannot start. The bindings reach the system as C strings, so one with a
NUL stops the start before the system is asked. -/
def spawnChild (cfg : Config) (m : Machine π) (fs : Host.Fs) (workdir : String) (cmd : Rendered) :
    Except JobError (π × List String) :=
  if cmd.env.any bindingHasNul then .error (.spawn (cmd.program ++ ": " ++ nulInData))
  else
    let pathVar := ((childEnvOf m cmd).lookup "PATH").getD "/bin:/usr/bin"
    let rl := cfg.execution.rlimits
    let prepared := cfg.execution.useProcessGroups || !rl.isEmpty
    let program := Text.encode cmd.program
    match m.start fs workdir pathVar program (cmd.argv.map Text.encode) rl prepared with
    | .error err => .error (.spawn (cmd.program ++ ": " ++ err.text))
    | .ok l => .ok l

/-- Execute job `d` on machine `m` with commands from `t` under `cfg`. The stop signals are looked
at twice before a process starts: the job is cancelled at once when `cancelledFirst`, and right
before its process would start when `cancelledLate`. A started process is stopped at the times
`stops`. -/
def executeJob (t : Template) (cfg : Config) (m : Machine π) (d : Dispatch)
    (cancelledFirst cancelledLate : Bool) (stops : StopTimes) : JobReport :=
  let o := Outcome.started d.job d.taskIndex d.workerId
  let refuse (what : String) (e : JobError) (o : Outcome) (fs : Host.Fs) : JobReport :=
    { outcome := o.close .error e.recordText 0, opening := [refusal what o.task e], fs }
  if cancelledFirst then { outcome := o.close .cancelled "Task cancelled" 0, fs := m.fs }
  else
  match checkSource m.fs m.cwd d.job.sourcePath cfg.security.maxTaskFileSize with
  | .error e => refuse "task rejected" e o m.fs
  | .ok () =>
  match t.build m.fs m.cwd d.job cfg.security.maxArgumentLength with
  | .error e => refuse "command rejected" e o m.fs
  | .ok cmd =>
  let o := { o with command := cmd.display }
  match resolveWorkdir cfg.execution m d.workerId with
  | .error e => refuse "workspace unavailable" e o m.fs
  | .ok (fs, workdir) =>
  if cancelledLate then { outcome := o.close .cancelled "Task cancelled" 0, fs }
  else
  match spawnChild cfg m fs workdir cmd with
  | .error e => refuse "spawn failed" e o fs
  | .ok (l, argv) =>
  let env := childEnvOf m cmd
  let rl := cfg.execution.rlimits
  let stopping : Stopping :=
    { cancelAt := stops.cancelAt, forceAt := stops.forceAt,
      timeout := cfg.limits.timeout.nanos, grace := cfg.execution.terminationGrace.nanos,
      groups := cfg.execution.useProcessGroups }
  let run := superviseChild stopping m.childPid (m.run fs workdir l argv env rl)
  let o := (supervise { o with childPid := some m.childPid } cfg.limits.maxOutputCapture
    cfg.limits.timeoutSecs run.trace).outcome
  let opening : Log.Event :=
    { level := .debug, target := procTarget, message := "task started",
      fields := [("worker_id", .nat d.workerId), ("task_index", .nat d.taskIndex),
        ("pid", .debugged ("Some(" ++ toString m.childPid ++ ")")), ("command", .shown cmd.display),
        ("workdir", .shown workdir)] }
  let closing : Log.Event :=
    { level := .debug, target := procTarget, message := "task finished",
      fields := [("worker_id", .nat d.workerId), ("task_index", .nat d.taskIndex),
        ("status", .shown o.status.name), ("exit_code", .debugged (Log.optionText o.exitCode)),
        ("duration_secs", .float (Float.ofNat run.finish / 1000000000.0))] }
  match captureFault cfg.limits.maxOutputCapture run.trace with
  | some a => { outcome := o, opening := [opening], elapsed := run.finish, fs := run.fs, fault := some a }
  | none => { outcome := o, opening := [opening], closing := [closing], elapsed := run.finish, fs := run.fs }

/-- Milliseconds that cover `ns` nanoseconds. -/
def ceilMillis (ns : Nat) : Nat := (ns + nanosPerMilli - 1) / nanosPerMilli

/-- A job of the process runner in progress: what it was given, when it started (in
milliseconds), the files when it started, the stops it has seen and its run. -/
structure ProcJob where
  dispatch : Dispatch
  startedAt : Nat
  fsBefore : Host.Fs
  stops : StopTimes
  run : JobReport

namespace ProcJob

/-- When the job ends, in milliseconds. -/
def endsAt (j : ProcJob) : Nat := j.startedAt + ceilMillis j.run.elapsed

/-- Where the job stands at time `now`: ended or broken down, or waiting for its end or a stop
it has not seen yet. The files are the job's own once it ended. -/
def standing (j : ProcJob) (shared : Host.Fs) (now : Nat) (events : List Log.Event) :
    Step Host.Fs ProcJob :=
  if j.endsAt ≤ now then
    match j.run.fault with
    | some a => { progress := .crashed a.message, events, shared := j.run.fs }
    | none =>
      { progress := .finished { j.run.outcome with startTime := j.startedAt, endTime := j.endsAt },
        events := events ++ j.run.closing, shared := j.run.fs }
  else
    let wait : Wait :=
      { deadline := some j.endsAt, onCancel := j.stops.cancelAt.isNone,
        onForce := j.stops.forceAt.isNone }
    { progress := .waiting j wait, events, shared }

end ProcJob

/-- The process runner with commands from `t` under `cfg`, on a machine `m` whose files are
shared by the jobs of a run. -/
def procRunner (t : Template) (cfg : Config) (m : Machine π) : Runner Host.Fs ProcJob where
  name := "proc"
  check := t.checkJobs
  checkEvents jobs :=
    if t.isBlank then []
    else
      match t.checkAll jobs with
      | [] => []
      | failures@((i, e) :: _) =>
        let first := (jobs.getD i (.file "")).identity ++ ": " ++ e.text
        [{ level := .warn, target := procTarget, message := "placeholder validation failed",
           fields := [("count", .nat failures.length), ("first", .shown first)] }]
  start fs d now sig :=
    let forceAt := if sig.forced then some 0 else none
    -- no time passes between the two looks at the signals
    let run := executeJob t cfg { m with fs } d sig.cancelled sig.cancelled { forceAt }
    let j : ProcJob := { dispatch := d, startedAt := now, fsBefore := fs, stops := { forceAt }, run }
    j.standing fs now run.opening
  resume fs j now sig :=
    let at_ := (now - j.startedAt) * nanosPerMilli
    let stops : StopTimes :=
      { cancelAt := if sig.cancelled && j.stops.cancelAt.isNone then some at_ else j.stops.cancelAt
        forceAt := if sig.forced && j.stops.forceAt.isNone then some at_ else j.stops.forceAt }
    if stops == j.stops then j.standing fs now []
    else
      let run := executeJob t cfg { m with fs := j.fsBefore } j.dispatch false false stops
      let j2 : ProcJob := { j with stops, run }
      j2.standing fs now []

end Fanout
