import Fanout.Posix.Pattern
import Fanout.Posix.Fields
import Fanout.Host.Fs

/-!
# Pathname expansion

A field with an unquoted `*`, `?` or bracket expression names the existing paths it matches.
The field is read as names between slashes. A name with pattern characters is matched against
the entries of the directory reached so far; an entry whose name starts with `.` (among them
`.` and `..`) matches only a name that starts with `.` too. Plain names are taken as written,
and when the field ends in plain names the path they complete must exist.

All matches of a field come out sorted by their text. A field that matches nothing stays as it
was written, and so does a field without pattern characters, which is never looked up.
-/

namespace Fanout.Posix

open Host

/-- Cut a field at its slashes, quoted or not. -/
def splitSlashes : List QChar → List (List QChar)
  | [] => [[]]
  | (c, q) :: rest =>
    match c == '/', splitSlashes rest with
    | true, pieces => [] :: pieces
    | false, piece :: pieces => ((c, q) :: piece) :: pieces
    | false, [] => [[(c, q)]]

/-- The pattern of one name. -/
def namePattern (name : List QChar) : List PatItem := toPattern (name.length + 1) name

/-- Whether a name has pattern characters. -/
def isPatternName (name : List QChar) : Bool := (namePattern name).any (!·.isPlain)

/-- The names of the entries of directory `dir` (as written; empty for the working directory),
with `.` and `..`; none when `dir` is not a directory. -/
def dirEntries (fs : Fs) (cwd dir : String) : List String :=
  match fs.resolve cwd (if dir.isEmpty then "." else dir) with
  | .ok d =>
    match fs.node? d with
    | some (.dir _) =>
      [".", ".."] ++ fs.nodes.filterMap fun (p, _) =>
        if p != "/" && parentPath p == d then fileName p else none
    | _ => []
  | .error _ => []

/-- The entries of `dir` that the name `name` matches. -/
def matchingEntries (fs : Fs) (cwd dir : String) (name : List QChar) : List String :=
  let pat := namePattern name
  let dotted := name.head?.map (·.1) == some '.'
  (dirEntries fs cwd dir).filter fun e =>
    (dotted || !e.startsWith ".") && patMatch pat e.toList

/-- Whether `p` leads to something. -/
def pathExists (fs : Fs) (cwd p : String) : Bool :=
  match fs.stat cwd p with
  | .ok _ => true
  | .error _ => false

/-- The paths that the names `names` reach below the path `pre` written so far. -/
def globFrom (fs : Fs) (cwd : String) : String → List (List QChar) → List String
  | pre, [] => [pre]
  | pre, [name] =>
    if isPatternName name then (matchingEntries fs cwd pre name).map (pre ++ ·)
    else
      let p := pre ++ fieldText name
      if pathExists fs cwd p then [p] else []
  | pre, name :: rest =>
    if isPatternName name then
      (matchingEntries fs cwd pre name).flatMap fun e => globFrom fs cwd (pre ++ e ++ "/") rest
    else globFrom fs cwd (pre ++ fieldText name ++ "/") rest

/-- The words a field expands to: its sorted matches, or its text when it has no pattern or
no match. -/
def globField (fs : Fs) (cwd : String) (f : List QChar) : List String :=
  let names := splitSlashes f
  -- Only an unquoted `*`, `?` or `[` can make a pattern.
  if !f.any (fun (c, q) => !q && (c == '*' || c == '?' || c == '[')) || !names.any isPatternName then
    [fieldText f]
  else
    match globFrom fs cwd "" names with
    | [] => [fieldText f]
    | found => found.mergeSort fun a b => decide (a ≤ b)

end Fanout.Posix
