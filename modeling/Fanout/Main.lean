import Fanout.App.Program
import Fanout.Host.System

/-!
# The command-line program

Runs `Fanout.App.runProgram` on a machine built from the real one: the working directory, the
home directory, `FANRUN_LOG` and `FANRUN_CONFIG`, and the files the command line and the
configuration name, read as they are now. Jobs run on the simulated machine
(`App.simulatedMachine`). Log lines are printed without timestamps.
-/

namespace Fanout.Cli

open Fanout

/-- `path` under `cwd` unless it starts at the root. -/
def absoluteUnder (cwd path : String) : String :=
  if path.startsWith "/" then path else cwd ++ "/" ++ path

/-- Copy the file at `path` into `fs`, when it can be read. -/
def loadFile (cwd : String) (fs : Host.Fs) (path : String) : IO Host.Fs := do
  let abs := absoluteUnder cwd path
  try
    let content ← IO.FS.readBinFile abs
    return fs.writeFile (Text.encode abs) (Text.ofBytes content.toList)
  catch _ => return fs

/-- The text of a written line. -/
def lineText : Log.Line → String
  | .log _ body => body
  | .record j => Json.render j
  | .plain text => text

/-- The machine the program sees: the directories it works in and the files it names. -/
def machineFor (args : List String) (cwd home : String) (config : Option String) :
    IO (Machine Posix.Launch) := do
  let dirs := match Host.Fs.system.mkdirAll "/" (Text.encode cwd) with
    | .ok fs => fs
    | .error _ => Host.Fs.system
  let dirs := match dirs.mkdirAll "/" (Text.encode home) with
    | .ok fs => fs
    | .error _ => dirs
  let fs ← (args ++ config.toList).foldlM (loadFile cwd) dirs
  let path := (← IO.getEnv "PATH").getD Posix.defaultPath
  return App.simulatedMachine fs cwd [("PATH", path), ("HOME", home)] home 1

end Fanout.Cli

open Fanout in
/-- Run the program with the process's arguments and environment. -/
def main (args : List String) : IO UInt32 := do
  let cwd := (← IO.currentDir).toString
  let home := (← IO.getEnv "HOME").getD "/root"
  let log ← IO.getEnv "FANRUN_LOG"
  let config ← IO.getEnv "FANRUN_CONFIG"
  let vars := (log.map fun v => [("FANRUN_LOG", v)]).getD [] ++
    (config.map fun v => [("FANRUN_CONFIG", v)]).getD []
  let machine ← Cli.machineFor args cwd home config
  let fin := App.runProgram { args, vars, machine }
  for l in fin.stdout do
    IO.println (Cli.lineText l)
  IO.eprint fin.stderr
  return fin.code.toUInt32
