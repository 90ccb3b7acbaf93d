import Fanout.Host.Fs
import Fanout.Posix.Builtins

/-!
# Finding and starting programs

A command name with a slash is a path; without one it is looked up in the directories of
`PATH`, in order. The programs installed on the machine live in `/usr/bin` (and so in `/bin`,
which links there). A file is started by the kernel when it has an execute bit: a first line `#!interp arg`
names the program that runs it; without one the kernel refuses the file (`Exec format error`),
and the shell then runs it as a shell script itself.
-/

namespace Fanout.Posix

open Fanout.Host

/-- The `PATH` a process has when nothing sets it. -/
def defaultPath : String := "/usr/local/sbin:/usr/local/bin:/usr/sbin:/usr/bin:/sbin:/bin"

/-- The installed program a path leads to, links followed. -/
def programAt? (fs : Fs) (cwd path : String) : Option String :=
  match fs.stat cwd path with
  | .ok (.program n _) => some n
  | _ => none

/-- How a file is started. -/
inductive Launch where
  /-- A program of the host, by name. -/
  | host (name : String)
  /-- A file without `#!` that the shell runs as a script. -/
  | script (path : String)
  /-- A file with `#!interp arg`. -/
  | interpreter (interp : String) (arg : Option String) (path : String)
  deriving Inhabited, Repr, BEq

/-- Whether a file mode has an execute bit. -/
def executableMode (mode : Nat) : Bool := mode / 64 % 2 == 1 || mode / 8 % 2 == 1 || mode % 2 == 1

/-- The interpreter line of a script: the program and its one optional argument. -/
def shebang? (content : String) : Option (String × Option String) :=
  if content.startsWith "#!" then
    let line := ((content.drop 2).toString.splitOn "\n").headD ""
    let line := String.ofList (line.toList.dropWhile fun c => c == ' ' || c == '\t')
    let interp := String.ofList (line.toList.takeWhile fun c => c != ' ' && c != '\t')
    let rest := String.ofList ((line.toList.drop interp.length).dropWhile fun c => c == ' ' || c == '\t')
    let rest := String.ofList (rest.toList.reverse.dropWhile fun c => c == ' ' || c == '\t' || c == '\r').reverse
    some (interp, if rest.isEmpty then none else some rest)
  else none

/-- How the kernel starts the file at `path` (from `cwd`), or why it cannot. -/
def launchFile (fs : Fs) (cwd path : String) : Except OsError Launch :=
  match fs.stat cwd path with
  | .ok (.program n mode) => if executableMode mode then .ok (.host n) else .error .permissionDenied
  | .ok (.file content mode) =>
    if !executableMode mode then .error .permissionDenied
    else
      match shebang? content with
      | some (interp, arg) =>
        match fs.stat cwd interp with
        | .ok (.program _ _) => .ok (.interpreter interp arg path)
        | .ok (.file _ m) => if executableMode m then .error .execFormat else .error .permissionDenied
        | _ => .error .notFound
      | none => .error .execFormat
  | .ok (.link _) => .error .notFound
  | .ok _ => .error .permissionDenied
  | .error e => .error e

/-- Where a command name leads. -/
inductive Found where
  | path (p : String)
  /-- Every candidate lacked an execute bit; the first such. -/
  | denied (p : String)
  | missing
  deriving Inhabited, Repr, BEq

/-- Look a name up in the directories of `pathVar`: the first candidate that is a host program
or a file with an execute bit. -/
def searchPath (fs : Fs) (cwd pathVar name : String) : Found :=
  let dirs := pathVar.splitOn ":"
  let step (acc : Found) (d : String) : Found :=
    match acc with
    | .path _ => acc
    | _ =>
      let dir := if d.isEmpty then "." else d
      let cand := joinPath dir name
      let executable := fun (mode : Nat) =>
        if executableMode mode then Found.path cand
        else match acc with
          | .missing => .denied cand
          | other => other
      match fs.stat cwd cand with
      | .ok (.file _ mode) => executable mode
      | .ok (.program _ mode) => executable mode
      | _ => acc
  dirs.foldl step .missing

end Fanout.Posix
