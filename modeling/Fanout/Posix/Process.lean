import Fanout.Posix.Run
import Fanout.Process.Supervise
import Fanout.Config.Execution

/-!
# A task's process on the simulated host

How the simulated host starts a task's program and what the program then does. A program named
without a slash is looked up in the `PATH` the child is given. When the child is set up before
its program starts (its own process group, or resource limits), the start goes through the
library call that runs a file the kernel cannot start as a shell script; otherwise such a file
cannot be started at all. A limit on open files above the system's ceiling cannot be set, and
the child does not start.

A started program runs in the shell's interpreter with the signals the supervisor sends it, and
the jobs it leaves running in the background go on after it with the signals sent to its group
while it lived.
-/

namespace Fanout.Posix

open Host

/-- The step budget of the interpreter's calls. -/
def shellFuel : Nat := 400000

/-- The highest limit on open files a process may be given. -/
def openFilesCeiling : Nat := 1048576

/-- A configured limit as the system keeps it: the largest 64-bit value means no limit. -/
def systemLimit (n : Nat) : Option Nat :=
  if n ≥ Nat.pow 2 64 - 1 then none else some n

/-- The limits a child gets from the configured ones; what is not configured is inherited. -/
def childLimits (r : Rlimits) : Limits :=
  let l : Limits := {}
  let l := l.setBoth 'n' (some (r.maxOpenFiles.getD openFilesCeiling))
  let l := match r.maxFileSizeBytes with
    | some n => l.setBoth 'f' (systemLimit n)
    | none => l
  let l := if r.disableCoreDumps then l.setBoth 'c' (some 0) else l
  match r.memoryLimitBytes with
  | some n => l.setBoth 'v' (systemLimit n)
  | none => l

/-- How the child's program starts, and the words it is given: a program named without a slash
is looked up in `pathVar`. With `viaShell`, a file the kernel cannot start runs as a shell
script named by the file found. -/
def startTarget (fs : Fs) (workdir pathVar program : String) (argv : List String)
    (viaShell : Bool) : Except OsError (Launch × List String) := do
  let file ← if program.contains '/' then pure program
    else match searchPath fs workdir pathVar program with
      | .path p => pure p
      | .denied _ => throw .permissionDenied
      | .missing => throw .notFound
  match launchFile fs workdir file with
  | .ok l => pure (l, argv)
  | .error .execFormat =>
    if viaShell then pure (.script file, file :: argv.drop 1) else throw .execFormat
  | .error e => throw e

/-- Start `program` with the words `argv` and the limits `rl`, set up before it starts when
`prepared`: a limit on open files the system refuses stops it first. -/
def startProgram (fs : Fs) (workdir pathVar program : String) (argv : List String)
    (rl : Rlimits) (prepared : Bool) : Except OsError (Launch × List String) :=
  if rl.maxOpenFiles.any (· > openFilesCeiling) then .error .notPermitted
  else startTarget fs workdir pathVar program argv prepared

/-- The process's end: its exit and the state then. A process that spins forever meets the
signals still to come. -/
def settleMain (r : Except Stop Unit) (w : World) : Exit × World :=
  match r with
  | .error (.exit c) => (.code c, w)
  | .error (.killed sig) => (.signal sig, w)
  | .error .exhausted =>
    match (blockUntil (horizonOf w.p) false).runFrom w with
    | (.error (.killed sig), w2) => (.signal sig, w2)
    | (_, w2) => (.signal 9, w2)
  | _ => (.code w.sh.status, w)

/-- What process `pid`, started as `l` with the words `argv` in `workdir`, with environment `env`
and limits `rl`, does when the signals `toProcess` are sent to it and `toGroup` to its group. -/
def processLife (pid : Nat) (fs : Fs) (workdir : String) (l : Launch) (argv : List String)
    (env : List (String × String)) (rl : Rlimits) (toProcess toGroup : List (Nat × Nat)) :
    ChildLife :=
  let base : Shell := { arg0 := argv.headD "", pid, cwd := workdir, limits := childLimits rl }
  let sh0 := { freshShell base pid env with arg0 := argv.headD "" }
  let p0 : Proc := { self := pid, nextPid := pid, incoming := toProcess, group := toGroup, fs }
  let (r, w) := (launch shellFuel l argv env).runFrom { sh := sh0, p := p0 }
  let (exit, w) := settleMain r w
  let d := w.p.now
  -- the supervisor signals the group only while the process itself lives
  let late := toGroup.filter (·.1 ≤ d)
  let runs := match (w.p.jobs.mapM fun j => simulateJob shellFuel j late).runFrom w with
    | (.ok rs, _) => rs
    | (.error _, _) => []
  { writes := w.p.log.toList ++ runs.foldr (fun r acc => r.log.toList ++ acc) [],
    endedAt := d, exit, leftBehind := runs.map (·.finish), fs := w.p.fs }

end Fanout.Posix
