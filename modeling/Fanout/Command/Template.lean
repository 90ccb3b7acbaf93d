import Fanout.Job.Basic
import Fanout.Job.Error
import Fanout.Shell.Quote
import Fanout.Shell.Words
import Fanout.Text.Digit
import Fanout.Text.Blank
import Fanout.Host.Fs
import Fanout.Text.Bytes

/-!
# Command templates

A template is a command line with placeholders: `@TASK@` for the job's file, `@ARG@` for its
first argument and `@ARG_n@` for its `n`-th (from 1). Placeholders are found left to right
without overlap; the index of `@ARG_n@` is a run of decimal digits of any script, and only an
index written in ASCII digits, from 1 up to the word range, names an argument. Any other index
(`0`, too large, or in other digits) is never matched.

Building a command puts each value in, quoted so that it stays one word, and splits the line
into words. The checks come in a fixed order: a NUL in a value (as soon as the value is put
in), unmatched placeholders (sorted by length, then text, without repeats), a line that does
not split, an empty line, and for each word in turn a NUL and then its length in characters.

Arguments are also passed in the environment: the template's variable names are paired with the
arguments, up to the shorter of the two lists.
-/

namespace Fanout

/-- What a placeholder stands for. -/
inductive Slot where
  /-- The job's file, made absolute. -/
  | task
  /-- The argument at this position, from 0. -/
  | arg (i : Nat)
  /-- An index that names no argument. -/
  | invalid
  deriving Inhabited, DecidableEq, Repr

/-- The value of a placeholder for a job whose file is at `taskPath`: the file, or the argument
at its position; an index that names no argument has none. -/
def Slot.value (taskPath : String) (args : List String) : Slot → Option String
  | .task => some taskPath
  | .arg i => args[i]?
  | .invalid => none

/-- A piece of a scanned template. -/
inductive Piece where
  | char (c : Char)
  /-- A placeholder with the text it was written as. -/
  | hole (text : String) (slot : Slot)
  deriving Inhabited, DecidableEq, Repr

/-- The value of an index written in ASCII digits, if every digit is one. -/
def asciiValue? (ds : List Char) : Option Nat :=
  if ds.all Char.isDigit then some (ds.foldl (fun n c => 10 * n + (c.toNat - 48)) 0) else none

/-- The slot of `@ARG_<ds>@`. -/
def indexSlot (ds : List Char) : Slot :=
  match asciiValue? ds with
  | some n => if 0 < n ∧ n < Nat.pow 2 64 then .arg (n - 1) else .invalid
  | none => .invalid

theorem dropWhile_length_le {α : Type} (p : α → Bool) :
    ∀ l : List α, (l.dropWhile p).length ≤ l.length
  | [] => Nat.le_refl _
  | c :: cs => by
    rw [List.dropWhile_cons]
    split
    · exact Nat.le_succ_of_le (dropWhile_length_le p cs)
    · exact Nat.le_refl _

/-- Split a template into characters and placeholders. -/
def scanPieces : List Char → List Piece
  | [] => []
  | '@' :: 'T' :: 'A' :: 'S' :: 'K' :: '@' :: rest => .hole "@TASK@" .task :: scanPieces rest
  | '@' :: 'A' :: 'R' :: 'G' :: '@' :: rest => .hole "@ARG@" (.arg 0) :: scanPieces rest
  | '@' :: 'A' :: 'R' :: 'G' :: '_' :: rest =>
    let ds := rest.takeWhile Text.isDecimalDigit
    match _hRest : rest.dropWhile Text.isDecimalDigit with
    | '@' :: after =>
      if ds.isEmpty then .char '@' :: scanPieces ('A' :: 'R' :: 'G' :: '_' :: rest)
      else .hole ("@ARG_" ++ String.ofList ds ++ "@") (indexSlot ds) :: scanPieces after
    | _ => .char '@' :: scanPieces ('A' :: 'R' :: 'G' :: '_' :: rest)
  | c :: rest => .char c :: scanPieces rest
termination_by cs => cs.length
decreasing_by
  all_goals
    first
    | (have h1 := dropWhile_length_le Text.isDecimalDigit rest
       rw [_hRest, List.length_cons] at h1
       repeat rw [List.length_cons]
       omega)
    | (repeat rw [List.length_cons]
       omega)

/-- Sort placeholder texts by length in bytes, then by text, and drop repeats. -/
def sortUnmatched (names : List String) : List String :=
  (names.mergeSort fun a b =>
    a.utf8ByteSize < b.utf8ByteSize || (a.utf8ByteSize == b.utf8ByteSize && decide (a ≤ b))).eraseDups

/-- A command line with placeholders, and the names of the variables that carry the arguments. -/
structure Template where
  text : String
  envVars : List String := []
  deriving Inhabited, DecidableEq, Repr

/-- A command ready to start: its words, its environment bindings and its display line. -/
structure Rendered where
  argv : List String
  env : List (String × String)
  /-- The words quoted and joined by blanks. -/
  display : String
  deriving Inhabited, DecidableEq, Repr

namespace Rendered

/-- The command's words and bindings, with the display line they give. -/
def make (argv : List String) (env : List (String × String)) : Rendered :=
  { argv, env, display := (Shell.join? argv).getD (" ".intercalate argv) }

/-- The program to start. -/
def program (r : Rendered) : String := r.argv.headD ""

/-- The words after the program. -/
def args (r : Rendered) : List String := r.argv.drop 1

/-- The line a dry run prints: each binding as `NAME=value ` with the value quoted when it can
be, then the display line. -/
def dryRunLine (r : Rendered) : String :=
  String.join (r.env.map fun (name, value) =>
    name ++ "=" ++ (Shell.quote? value).getD value ++ " ") ++ r.display

end Rendered

namespace Template

/-- A template whose variable names are trimmed, with blank names dropped. -/
def make (text : String) (names : List String) : Template :=
  { text, envVars := (names.map Text.trimWhite).filter (· != "") }

/-- A template of only white space. -/
def isBlank (t : Template) : Bool := Text.isBlank t.text

/-- The placeholders of the template, in order. -/
def holes (t : Template) : List (String × Slot) :=
  (scanPieces t.text.toList).filterMap fun p => match p with
    | .hole text slot => some (text, slot)
    | .char _ => none

/-- The placeholders that the job gives no value. -/
def unmatched (t : Template) (job : Job) : List String :=
  sortUnmatched ((t.holes.filter fun (_, slot) => match slot with
    | .task => false
    | .arg i => job.args.length ≤ i
    | .invalid => true).map (·.1))

/-- Refuse a job that leaves placeholders without a value. -/
def check (t : Template) (job : Job) : Except JobError Unit :=
  match t.unmatched job with
  | [] => .ok ()
  | names => .error (.unmatchedPlaceholders names)

/-- The refused jobs, by position. -/
def checkAll (t : Template) (jobs : List Job) : List (Nat × JobError) :=
  (jobs.zipIdx.filterMap fun (job, i) => match t.check job with
    | .ok () => none
    | .error e => some (i, e))

/-- The text of a NUL in an argument. -/
def nulText : String := "argument contains a NUL byte"

/-- Fill the placeholders from left to right with quoted values, collecting the unmatched ones;
a value with a NUL stops the filling. -/
def fill (taskPath : String) (args : List String) :
    List Piece → Except JobError (List Char × List String)
  | [] => .ok ([], [])
  | .char c :: ps => do
    let (out, missing) ← fill taskPath args ps
    return (c :: out, missing)
  | .hole text slot :: ps =>
    match slot.value taskPath args with
    | some v =>
      match Shell.quote? v with
      | some q => do
        let (out, missing) ← fill taskPath args ps
        return (q.toList ++ out, missing)
      | none => .error (.security nulText)
    | none => do
      let (out, missing) ← fill taskPath args ps
      return (out, text :: missing)

/-- Refuse the first word with a NUL or more than `maxLen` characters. -/
def checkWords (maxLen : Nat) : List String → Except JobError Unit
  | [] => .ok ()
  | w :: ws =>
    if w.toList.contains (Char.ofNat 0) then .error (.security nulText)
    else if w.length > maxLen then
      .error (.security ("Argument too long: " ++ toString w.length ++ " characters"))
    else checkWords maxLen ws

/-- Build the command for a job whose file is at `taskPath`. -/
def render (t : Template) (taskPath : String) (job : Job) (maxLen : Nat) :
    Except JobError Rendered := do
  let (line, missing) ← fill taskPath job.args (scanPieces t.text.toList)
  if !missing.isEmpty then throw (.unmatchedPlaceholders (sortUnmatched missing))
  let argv ← match Shell.split? (String.ofList line) with
    | some ws => pure ws
    | none => throw (.security "Invalid command syntax: unbalanced quotes or trailing escape")
  if argv.isEmpty then throw (.security "Empty command after parsing")
  checkWords maxLen argv
  return Rendered.make argv (t.envVars.zip job.args)

end Template

/-- The absolute form of a job's file: the resolved path when it exists, else the path made
absolute under `cwd`, else the path as given. -/
def taskPath (fs : Host.Fs) (cwd p : String) : String :=
  match fs.resolve (Text.encode cwd) (Text.encode p) with
  | .ok q => Text.decode q
  | .error _ => (Host.absolute? cwd p).getD p

/-- Build the command for a job on a machine with files `fs` and working directory `cwd`. -/
def Template.build (t : Template) (fs : Host.Fs) (cwd : String) (job : Job) (maxLen : Nat) :
    Except JobError Rendered :=
  t.render (taskPath fs cwd job.sourcePath) job maxLen

end Fanout
