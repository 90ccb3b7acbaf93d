import Fanout.App.Invocation
import Fanout.Process.Runner
import Fanout.Posix.Process
import Fanout.Log.Setup
import Fanout.Json.Print

/-!
# The program

The whole program from its start to its exit, on a machine whose system starts and runs the
jobs' programs; the command line runs it on the simulated host (`simulatedMachine`). It
installs a text logger on standard output (filtered by `FANRUN_LOG`, `info` when unset), loads the
configuration named by `FANRUN_CONFIG` (the defaults when unset), lowers values above their
ceilings with a warning for each, and checks the result. Then it reads its command line. A dry
run prints the command line of every job, or fails on the first that cannot be built. A real
run reports each outcome and the summary to the log, prints the summary as indented JSON, and
exits with status 1 when a job failed or the run stopped early.

Any failure on the way ends the program with status 1 and its text on standard error.
-/

namespace Fanout.App

open Host Log

variable {π : Type}

/-- The simulated machine with files `fs`: programs start and run as the simulated host's shell
and programs start and run them, and every task's process gets the id 4242. -/
def simulatedMachine (fs : Fs) (cwd : String) (env : List (String × String)) (home : String)
    (enginePid : Nat) : Machine Posix.Launch :=
  let pid := 4242
  { fs, cwd, env, home, enginePid, start := Posix.startProgram, childPid := pid,
    run := Posix.processLife pid }

/-- What the program is started with: its arguments, the variables it reads, and the machine. -/
structure Start (π : Type) where
  args : List String
  vars : List (String × String)
  machine : Machine π

/-- How the program ended: its exit status, what it wrote to standard output, what it wrote to
standard error, and the files afterwards. -/
structure Finish where
  code : Nat
  stdout : List Line
  stderr : String
  fs : Fs

/-- The event target of configuration warnings. -/
def configTarget : String := "fanrun.model.config"

/-- The event target of the program itself. -/
def programTarget : String := "fanrun_demo"

/-- The warning that a value was lowered to its ceiling. -/
def clampEvent (n : ClampNote) : Event :=
  { level := .warn, target := configTarget, message := n.message,
    fields := [("requested", .nat n.requested), ("limit", .nat n.limit)] }

/-- Load the configuration file named by `FANRUN_CONFIG`, if any. -/
def loadConfig (fs : Fs) (cwd : String) (vars : List (String × String)) : Except Failure Config :=
  match vars.lookup "FANRUN_CONFIG" with
  | none => .ok {}
  | some path =>
    match readText fs cwd path with
    | .error e => .error { message := "reading " ++ path, causes := [e.text] }
    | .ok raw =>
      match Json.fromText Config.decoder raw with
      | .ok c => .ok c
      | .error msg => .error { message := "parsing " ++ path, causes := [msg] }

/-- The longest a run may take on the simulated clock, in milliseconds. -/
def runLimit : Nat := 1000000000

/-- End with a failure. -/
def failWith (g : Logging) (f : Failure) : Finish :=
  { code := 1, stdout := g.console, stderr := f.text, fs := g.fs }

/-- Run the jobs of `inv` with commands from `t` under `cfg`, reporting to the logger of `g`. -/
def runJobsLogged (st : Start π) (g : Logging) (cfg : Config) (t : Template) (inv : Invocation) :
    Finish :=
  let started : Event :=
    { level := .info, target := programTarget, message := "starting run",
      fields := [("tasks", .nat inv.jobs.length)] }
  let g := g.emit started
  let m := { st.machine with fs := g.fs }
  match runJobs cfg (procRunner t cfg m) g.fs [{ name := "log", logs := true }] inv.jobs [] runLimit with
  | .error (e, checked) =>
    let g := checked.foldl Logging.emit g
    match e with
    | .runner _ reason => failWith g { message := e.text, causes := [reason.text] }
    | .config _ => failWith g { message := e.text }
  | .ok w =>
    let g := w.log.foldl Logging.emit g
    let g := { g with fs := w.shared }
    match w.result with
    | none => failWith g { message := "the run did not end" }
    | some s =>
      let g := g.print (Json.pretty 0 s.toJson)
      { code := if s.failed > 0 || s.stopReason.isEarly then 1 else 0,
        stdout := g.console, stderr := "", fs := g.fs }

/-- Run the program. -/
def runProgram (st : Start π) : Finish :=
  let m := st.machine
  let g0 : Logging := { fs := m.fs, cwd := m.cwd }
  let logCfg : LoggerConfig := { level := (st.vars.lookup "FANRUN_LOG").getD "info" }
  match g0.init logCfg with
  | .error e => failWith g0 { message := e.text }
  | .ok g =>
  match loadConfig g.fs m.cwd st.vars with
  | .error f => failWith g f
  | .ok cfg =>
  let (limits, notes) := cfg.limits.clamp
  let cfg := { cfg with limits }
  let g := notes.foldl (fun g n => g.emit (clampEvent n)) g
  match cfg.problems with
  | ps@(_ :: _) => failWith g { message := (StartError.config ps).text }
  | [] =>
  match parseArgs g.fs m.cwd st.args with
  | .error f => failWith g f
  | .ok inv =>
  let t := Template.make inv.template []
  if inv.dryRun then
    match t.plan g.fs m.cwd inv.jobs cfg.security.maxArgumentLength with
    | .error e => failWith g { message := e.text }
    | .ok lines => { code := 0, stdout := (lines.foldl Logging.print g).console, stderr := "", fs := g.fs }
  else runJobsLogged st g cfg t inv

end Fanout.App
