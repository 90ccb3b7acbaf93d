import Fanout.Json.Decode

/-!
# Jobs

A job is what one worker runs: a script file, or a command template with one line of arguments
taken from an arguments file. Its *identity* is the text by which records and logs name it: the
path of a file job, or the template followed by the source line in brackets (with its line
number when known).

The wire form is a map tagged by `type`: `file` with `path`, or `argument` with `template`,
`args`, `sourceLine` and, when known, `lineNumber`.
-/

namespace Fanout

/-- A template with the arguments of one line. -/
structure ArgumentJob where
  template : String
  args : List String := []
  /-- The line the arguments were read from, as written there. -/
  sourceLine : String := ""
  /-- The 1-based number of that line, when known. -/
  lineNumber : Option Nat := none
  deriving Inhabited, DecidableEq, Repr

/-- One unit of work. -/
inductive Job where
  | file (path : String)
  | argument (a : ArgumentJob)
  deriving Inhabited, DecidableEq, Repr

namespace Job

/-- An argument job whose source line is its arguments joined by single blanks. -/
def ofArgs (template : String) (args : List String) : Job :=
  .argument { template, args, sourceLine := " ".intercalate args }

/-- Attach the line the arguments came from; a file job is left as it is. -/
def withSourceLine (j : Job) (line : String) (number : Nat) : Job :=
  match j with
  | .file p => .file p
  | .argument a => .argument { a with sourceLine := line, lineNumber := some number }

/-- The file a job reads: the script, or the template. -/
def sourcePath : Job → String
  | .file p => p
  | .argument a => a.template

/-- The arguments of a job; a file job has none. -/
def args : Job → List String
  | .file _ => []
  | .argument a => a.args

/-- The text that names the job in records and logs. -/
def identity : Job → String
  | .file p => p
  | .argument { template, sourceLine, lineNumber := some n, .. } =>
    template ++ " [line " ++ toString n ++ ": " ++ sourceLine ++ "]"
  | .argument { template, sourceLine, lineNumber := none, .. } =>
    template ++ " [" ++ sourceLine ++ "]"

/-- `file` or `argument`. -/
def kind : Job → String
  | .file _ => "file"
  | .argument _ => "argument"

/-- The wire form. -/
def toJson : Job → Json
  | .file p => .obj [("type", .str "file"), ("path", .str p)]
  | .argument a =>
    .obj ([("type", .str "argument"), ("template", .str a.template),
      ("args", .arr (a.args.map Json.str)), ("sourceLine", .str a.sourceLine)] ++
      match a.lineNumber with
      | some n => [("lineNumber", Json.nat n)]
      | none => [])

open Json.Decoder in
/-- Read the wire form. Unknown members are skipped; `args` and `sourceLine` may be left out. -/
def decoder : Json.Decoder Job :=
  tagged "internally tagged enum TaskDescriptor" "type"
    [("file", Json.Decoder.map Job.file <| record "struct variant TaskDescriptor::File"
        [Field.of "path" path (fun p _ => p) true] ""),
     ("argument", Json.Decoder.map Job.argument <| record "struct variant TaskDescriptor::Argument"
        [Field.of "template" path (fun t (a : ArgumentJob) => { a with template := t }) true,
         Field.of "args" (list string) (fun v (a : ArgumentJob) => { a with args := v }),
         Field.of "sourceLine" string (fun v (a : ArgumentJob) => { a with sourceLine := v }),
         Field.of "lineNumber" (option usize) (fun v (a : ArgumentJob) => { a with lineNumber := v })]
        { template := "" })]

theorem identity_file (p : String) : (Job.file p).identity = p := rfl

theorem sourcePath_ofArgs (t : String) (xs : List String) : (ofArgs t xs).sourcePath = t := rfl

theorem args_ofArgs (t : String) (xs : List String) : (ofArgs t xs).args = xs := rfl

end Job

end Fanout
