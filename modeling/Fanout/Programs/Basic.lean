import Fanout.Posix.State

/-!
# Programs of the machine: shared conventions

The installed programs (`cat`, `seq`, `od`, …) run inside a process of their own and end it
with their status. They share these conventions:

* a message starts with the name the program was started by (`/usr/bin/test: …` when started
  by path), and a misuse adds `Try 'name --help' for more information.`;
* a text named in a message is quoted: with `‘` and `’` in a UTF-8 locale, with `'` otherwise;
* the locale is the first non-empty of `LC_ALL`, `LC_CTYPE` and `LANG`; only `C.UTF-8` (in any
  spelling) is a UTF-8 locale on this machine, every other name falls back to plain bytes;
* operands name files, `-` (or no operand) standard input, which a program reads in full.

Options are read as `getopt` does: short letters may be grouped, `--` ends them, and an unknown
letter is `invalid option -- 'x'`.
-/

namespace Fanout.Programs

open Fanout.Posix Fanout.Host

/-- End the program with a status. -/
def exitWith {α : Type} (code : Nat) : Sh α := throw (.exit code)

/-- Whether the program's locale has UTF-8 characters. -/
def utf8Locale (sh : Shell) : Bool :=
  let pick := fun (n : String) => (sh.get? n).filter (!·.isEmpty)
  let name := ((pick "LC_ALL").orElse fun _ => (pick "LC_CTYPE").orElse fun _ => pick "LANG").getD "C"
  let norm := String.ofList ((name.toList.filter (· != '-')).map Char.toLower)
  norm == "c.utf8"

/-- Quote a text in a message, as the locale does. -/
def quoteIn (utf8 : Bool) (s : String) : String :=
  if utf8 then "\xe2\x80\x98" ++ s ++ "\xe2\x80\x99" else "'" ++ s ++ "'"

/-- Quote a text in a message of the running program. -/
def quoted (s : String) : Sh String := do
  return quoteIn (utf8Locale (← getShell)) s

/-- Write a program's message: `name: message`. -/
def say (name msg : String) : Sh Unit := err (name ++ ": " ++ msg ++ "\n")

/-- The line that points to the program's help. -/
def tryHelp (name : String) : Sh Unit :=
  err ("Try '" ++ name ++ " --help' for more information.\n")

/-- Report a misuse and end with status 1. -/
def usageError {α : Type} (name msg : String) : Sh α := do
  say name msg
  tryHelp name
  exitWith 1

/-- Why the options of a command line could not be read. -/
inductive OptionError where
  /-- A letter that is no option. -/
  | unknown (c : Char)
  /-- A letter whose argument is missing. -/
  | needsArgument (c : Char)
  /-- A long option (the word as given) that names none. -/
  | unknownLong (word : String)
  /-- A long option (the word as given) that starts the names of several. -/
  | ambiguous (word : String) (names : List String)
  /-- A long option (its full name) whose argument is missing. -/
  | needsArgumentLong (name : String)
  /-- A long option (its full name) given an argument it does not take. -/
  | takesNoArgument (name : String)
  deriving Inhabited, Repr

/-- The letter of a bad short option and whether its argument was missing; a bad long option
gives `-`. -/
def OptionError.short : OptionError → Char × Bool
  | .unknown c => (c, false)
  | .needsArgument c => (c, true)
  | _ => ('-', false)

/-- How an option letter takes an argument in `spec`: 0 not at all, 1 always (`c:`), 2 when
joined to it (`c::`). -/
def argumentKind (spec : String) (c : Char) : Nat :=
  match spec.toList.dropWhile (· != c) with
  | _ :: ':' :: ':' :: _ => 2
  | _ :: ':' :: _ => 1
  | _ => 0

/-- Split options off the arguments as `getopt_long` does with the letters `spec` (a letter
followed by `:` takes an argument, by `::` an optional one) and the long options `longs`, each
a name and the letter it stands for (a long option without a short form has a letter of its
own, outside the printable ones). A long option may be shortened to any prefix that names one
option only, and takes its argument after `=` or, when it needs one, as the next word. The
result is the letters with their arguments, and the operands. The first operand ends the
options unless `permute`, and `--` always does. -/
def getopt (spec : String) (permute : Bool) (longs : List (String × Char)) : Nat → List String →
    Except OptionError (List (Char × String) × List String)
  | 0, args => .ok ([], args)
  | _ + 1, [] => .ok ([], [])
  | fuel + 1, a :: rest =>
    if a == "--" then .ok ([], rest)
    else if a.startsWith "--" then
      let body := (a.drop 2).toString
      let nm := String.ofList (body.toList.takeWhile (· != '='))
      let value : Option String :=
        if body.contains '=' then some (String.ofList ((body.toList.dropWhile (· != '=')).drop 1))
        else none
      let candidates := longs.filter fun (l, _) => nm.isPrefixOf l
      let chosen : Except OptionError (String × Char) :=
        match longs.find? (·.1 == nm) with
        | some o => .ok o
        | none =>
          match candidates with
          | [] => .error (.unknownLong a)
          | o :: more =>
            if more.all (·.2 == o.2) then .ok o
            else .error (.ambiguous a (candidates.map fun (l, _) => "--" ++ l))
      match chosen with
      | .error e => .error e
      | .ok (long, c) =>
        match argumentKind spec c, value with
        | 0, some _ => .error (.takesNoArgument long)
        | 1, none =>
          match rest with
          | w :: more => (getopt spec permute longs fuel more).map fun (os, ws) => ((c, w) :: os, ws)
          | [] => .error (.needsArgumentLong long)
        | _, v => (getopt spec permute longs fuel rest).map fun (os, ws) => ((c, v.getD "") :: os, ws)
    else if a.startsWith "-" && a.length > 1 then
      let rec letters : Nat → List Char → List String →
          Except OptionError (List (Char × String) × List String)
        | 0, _, more => getopt spec permute longs fuel more
        | _ + 1, [], more => getopt spec permute longs fuel more
        | k + 1, c :: cs, more =>
          match spec.toList.dropWhile (· != c) with
          | _ :: ':' :: _ =>
            if !cs.isEmpty then
              (getopt spec permute longs fuel more).map fun (os, ws) => ((c, String.ofList cs) :: os, ws)
            else if argumentKind spec c == 2 then
              (getopt spec permute longs fuel more).map fun (os, ws) => ((c, "") :: os, ws)
            else
              match more with
              | w :: more2 => (getopt spec permute longs fuel more2).map fun (os, ws) => ((c, w) :: os, ws)
              | [] => .error (.needsArgument c)
          | _ :: _ => (letters k cs more).map fun (os, ws) => ((c, "") :: os, ws)
          | [] => .error (.unknown c)
      letters (a.length + 1) (a.drop 1).toString.toList rest
    else if permute then (getopt spec permute longs fuel rest).map fun (os, ws) => (os, a :: ws)
    else .ok ([], a :: rest)

/-- Report a bad option as the GNU tools do: the message, then the pointer to the help, and end
with status 1. -/
def optionFailure {α : Type} (name : String) (e : OptionError) : Sh α := do
  match e with
  | .unknown c => usageError name ("invalid option -- " ++ (← quoted (String.singleton c)))
  | .needsArgument c => usageError name ("option requires an argument -- " ++ (← quoted (String.singleton c)))
  | .unknownLong w => usageError name ("unrecognized option '" ++ w ++ "'")
  | .ambiguous w names =>
    usageError name ("option '" ++ w ++ "' is ambiguous; possibilities:" ++
      String.join (names.map fun l => " '" ++ l ++ "'"))
  | .needsArgumentLong l => usageError name ("option '--" ++ l ++ "' requires an argument")
  | .takesNoArgument l => usageError name ("option '--" ++ l ++ "' doesn't allow an argument")

/-- Read the options of a program, with its long options, ending it on a bad one. -/
def options (name spec : String) (permute : Bool) (args : List String)
    (longs : List (String × Char) := []) : Sh (List (Char × String) × List String) := do
  match getopt spec permute longs (args.length + 1) args with
  | .ok r => pure r
  | .error e => optionFailure name e

/-- Whether an option letter was given. -/
def hasOpt (opts : List (Char × String)) (c : Char) : Bool := opts.any (·.1 == c)

/-- The argument of the last use of an option letter. -/
def optArg (opts : List (Char × String)) (c : Char) : Option String :=
  ((opts.filter (·.1 == c)).getLast?).map (·.2)

/-- Take all of standard input. -/
def readStdin : Sh (List UInt8) := do
  match ← unread 0 with
  | some data =>
    consume 0 data.length
    markDrained 0
    return data
  | none => return []

/-- The bytes of a file named by an operand (`-` is standard input), or the error of the system
on opening it. -/
def readOperand (f : String) : Sh (Except OsError (List UInt8)) := do
  if f == "-" then return .ok (← readStdin)
  let w ← get
  match w.p.fs.stat w.sh.cwd f with
  | .ok (.file content _) => return .ok (Text.toBytes content)
  | .ok (.dir _) => return .error .isDir
  | .ok (.device _) => return .ok []
  | .ok (.program _ _) => return .ok []
  | .ok (.link _) => return .error .notFound
  | .error e => return .error e

/-- The bytes of each operand in turn (standard input when there is none), reporting those
that cannot be read as `name: file: error`; whether all could be read. -/
def readInputs (name : String) (files : List String) : Sh (List (String × List UInt8) × Bool) := do
  let files := if files.isEmpty then ["-"] else files
  let mut acc := []
  let mut ok := true
  for f in files do
    match ← readOperand f with
    | .ok bs => acc := acc ++ [(f, bs)]
    | .error e =>
      say name (f ++ ": " ++ e.description)
      ok := false
  return (acc, ok)

/-- Write bytes to standard output. -/
def emit (bs : List UInt8) : Sh Unit := do let _ ← writeFd 1 bs

/-- Whether an operand names the device that reads as endless zero bytes. -/
def endlessZeros (f : String) : Sh Bool := do
  let w ← get
  match w.p.fs.stat w.sh.cwd f with
  | .ok (.device .zero) => return true
  | _ => return false

/-- Write the same bytes to standard output again and again, as a program with endless output
does, until a write fails; the failure is reported through `report`, given the system's text
for it, and ends the program with status 1. Output that never fails ends only with the step
budget. -/
def emitForever (report : String → String) (chunk : List UInt8) : Sh Unit := do
  for _ in List.range 2048 do
    if !(← writeFd 1 chunk) then
      let w ← get
      let why := if w.sh.fd? 1 == some .full then OsError.noSpace.description else "Broken pipe"
      err (report why ++ "\n")
      exitWith 1
  throw .exhausted

end Fanout.Programs
