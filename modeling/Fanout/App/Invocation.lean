import Fanout.Job.Basic
import Fanout.Host.Fs
import Fanout.Text.Bytes
import Fanout.Text.Blank

/-!
# The command line

The program is called as `fanrun-demo [--dry-run] '<template>' <task-file>...`, or with
`--args` as `fanrun-demo [--dry-run] --args <template-file> <args-file> '<template>'`. Both
flags are taken out wherever they stand, however often.

In the second form every line of the arguments file that is neither blank nor a comment (`#`
after leading blanks) is one job of the template file: its values are the line split at commas,
each trimmed, and the job remembers the trimmed line and its 1-based number among all lines.

A failure is a message with the causes behind it, printed as `Error: <message>` and, when there
are causes, a blank line, `Caused by:` and each cause indented.
-/

namespace Fanout.App

open Host

/-- A failure of the program: what failed and why. -/
structure Failure where
  message : String
  causes : List String := []
  deriving Inhabited, DecidableEq, Repr

namespace Failure

/-- The text printed for a failure, ending with a line break. -/
def text (f : Failure) : String :=
  "Error: " ++ f.message ++
  (match f.causes with
   | [] => ""
   | [c] => "\n\nCaused by:\n    " ++ c
   | cs => "\n\nCaused by:\n" ++ "\n".intercalate (cs.zipIdx.map fun (c, i) =>
       "    " ++ toString i ++ ": " ++ c)) ++ "\n"

end Failure

/-- What the command line asks for. -/
structure Invocation where
  dryRun : Bool
  template : String
  jobs : List Job
  deriving Inhabited, DecidableEq, Repr

/-- The usage line of the plain form. -/
def plainUsage : String := "usage: fanrun-demo [--dry-run] '<template>' <task-file>..."

/-- The usage line of the form with an arguments file. -/
def argsUsage : String :=
  "usage: fanrun-demo [--dry-run] --args <template-file> <args-file> '<template>'"

/-- Take every `flag` out of `args`: whether there was one, and the rest. -/
def takeFlag (flag : String) (args : List String) : Bool × List String :=
  let rest := args.filter (· != flag)
  (rest.length != args.length, rest)

/-- The lines of a text: split at line breaks, a carriage return before a break dropped, and no
empty line after a final break. -/
def textLines (s : String) : List String :=
  let parts := s.splitOn "\n"
  let parts := if s.endsWith "\n" then parts.dropLast else parts
  let parts := if s.isEmpty then [] else parts
  parts.map fun l => if l.endsWith "\r" then (l.dropEnd 1).toString else l

/-- Read the text of a file, which must be valid UTF-8. -/
def readText (fs : Fs) (cwd path : String) : Except OsError String :=
  match fs.stat (Text.encode cwd) (Text.encode path) with
  | .ok (.file content _) =>
    match Text.decode? content with
    | some t => .ok t
    | none => .error .invalidText
  | .ok _ => .error .isDir
  | .error e => .error e

/-- The jobs of an arguments file's text, for template file `template`. -/
def argumentJobs (template : String) (text : String) : List Job :=
  ((textLines text).zipIdx.filter fun (line, _) =>
    let t := Text.trimWhite line
    !t.isEmpty && !t.startsWith "#").map fun (line, i) =>
      (Job.ofArgs template ((line.splitOn ",").map Text.trimWhite)).withSourceLine
        (Text.trimWhite line) (i + 1)

/-- Read the command line on a machine with files `fs` and working directory `cwd`. -/
def parseArgs (fs : Fs) (cwd : String) (args : List String) : Except Failure Invocation :=
  let (dryRun, args) := takeFlag "--dry-run" args
  let (argumentMode, args) := takeFlag "--args" args
  if argumentMode then
    match args with
    | [templateFile, argsFile, template] =>
      match readText fs cwd argsFile with
      | .ok text => .ok { dryRun, template, jobs := argumentJobs templateFile text }
      | .error e => .error { message := "reading " ++ argsFile, causes := [e.text] }
    | _ => .error { message := argsUsage }
  else
    match args with
    | template :: files => .ok { dryRun, template, jobs := files.map Job.file }
    | [] => .error { message := plainUsage }

end Fanout.App
