import Fanout.Awk.Interp
import Fanout.Programs.Basic

/-!
# `awk`

`awk [-F fs] [-v var=value]… ['program' | -f file] [operand…]`: the program runs over the records
of the operands (standard input when there are none). An operand `name=value` sets a variable
when the input reaches it; `-` is standard input. The values of `-v` and `-F` and of operand
assignments take the escapes of string literals.

The run itself is pure and yields what the program asks of the system, in order: text for
standard output and standard error, text for files, text for commands (`print | "cmd"`), and
commands to run (`system`). Those requests are then carried out in the same order; a command
fed by `print |` runs when it is closed, or when the program ends. A command read by
`cmd | getline` runs at once, against the system as it was when the program started.
-/

namespace Fanout.Programs

open Fanout.Posix Fanout.Awk

/-- The text of an assigned value with its escapes read. -/
def unescapeValue (s : String) : String :=
  let rec go : Nat → List Char → String → String
    | 0, _, acc => acc
    | _ + 1, [], acc => acc
    | k + 1, '\\' :: rest, acc =>
      let (t, more) := stringEscape rest
      go k more (acc ++ t)
    | k + 1, c :: rest, acc => go k rest (acc.push c)
  go (s.length + 1) s.toList ""

/-- Whether an operand is an assignment `name=value`: the name and the value. -/
def assignment? (s : String) : Option (String × String) :=
  let name := s.toList.takeWhile (· != '=')
  match name with
  | c :: _ =>
    if (c.isAlpha || c == '_') && name.all (fun d => d.isAlphanum || d == '_') &&
        name.length < s.length then
      some (String.ofList name, String.ofList (s.toList.drop (name.length + 1)))
    else none
  | [] => none

/-- The variables a run starts with. -/
def startVars (fs : String) : List (String × Value) :=
  [("FS", .str fs), ("OFS", .str " "), ("ORS", .str "\n"), ("RS", .str "\n"),
   ("SUBSEP", .str (String.singleton (Char.ofNat 28))), ("CONVFMT", .str "%.6g"),
   ("OFMT", .str "%.6g"), ("NR", .num 0.0), ("FNR", .num 0.0), ("RSTART", .num 0.0),
   ("RLENGTH", .num (-1.0)), ("FILENAME", .str "")]

/-- The state a run starts in: the variables, `ARGV`, `ENVIRON` and the operands to read. -/
def startState (name fs : String) (assigns : List (String × String)) (env : List (String × String))
    (operands : List String) (sources : List Source) : State :=
  let vars := assigns.map (fun (k, v) => (k, Value.ofInput (unescapeValue v))) ++ startVars fs
  let argv := (name :: operands).zip (List.range (operands.length + 1)) |>.map
    fun (a, i) => (toString i, Value.ofInput a)
  { vars := vars ++ [("ARGC", .num (Float.ofNat (operands.length + 1)))]
    arrays := [("ARGV", argv), ("ENVIRON", env.map fun (k, v) => (k, Value.ofInput v))]
    sources }

/-- What a whole run comes to: how it ended and its final state. -/
def runAwk (prog : Program) (readFile : String → Option String) (capture : String → String)
    (size : Nat) (st : State) : Except Fault Unit × State :=
  (((runProgram size).run { program := prog, readFile, capture }).run).run st

/-- Write text to a file for `print >` and `print >>`. -/
def writeOutput (name path : String) (fresh : Bool) (text : String) : Sh Unit := do
  let w ← get
  match w.p.fs.createPath w.sh.cwd path with
  | .ok q =>
    let old := match w.p.fs.node? q with
      | some (.file c _) => if fresh then "" else c
      | _ => ""
    modifyProc fun p => { p with fs := p.fs.put q (.file (old ++ text) 0o644) }
  | .error _ =>
    say name ("cannot open \"" ++ path ++ "\" for output")
    exitWith 2

/-- Carry out the requests of a run in order. `pipes` holds what was written to each command
not yet closed; `runCmd` runs a command with the given standard input. -/
def applyEffects (name : String) (runCmd : String → Option (List UInt8) → Sh Nat) :
    List Effect → List (String × String) → Sh (List (String × String))
  | [], pipes => pure pipes
  | e :: rest, pipes => do
    match e with
    | .out s => out s; applyEffects name runCmd rest pipes
    | .err s => err s; applyEffects name runCmd rest pipes
    | .toFile path fresh s =>
      writeOutput name path fresh s
      applyEffects name runCmd rest pipes
    | .toPipe cmd s =>
      let pipes := match pipes.lookup cmd with
        | some t => pipes.map fun (c, u) => if c == cmd then (c, t ++ s) else (c, u)
        | none => pipes ++ [(cmd, s)]
      applyEffects name runCmd rest pipes
    | .system cmd =>
      let _ ← runCmd cmd none
      applyEffects name runCmd rest pipes
    | .close f =>
      match pipes.lookup f with
      | some t =>
        let _ ← runCmd f (some (Text.toBytes t))
        applyEffects name runCmd rest (pipes.filter (·.1 != f))
      | none => applyEffects name runCmd rest pipes

/-- The usage lines. -/
def awkUsage (name : String) : String :=
  "usage: " ++ name ++ " [-F value] [-v var=value] [--] 'program text' [file ...]\n" ++
  "usage: " ++ name ++ " [-F value] [-v var=value] [-f program-file] [--] [file ...]\n"

/-- The `awk` program; `runCmd` runs a shell command with the given standard input, and
`captureCmd` runs one for its output. -/
def awkProgram (name : String) (args : List String)
    (runCmd : String → Option (List UInt8) → Sh Nat) (captureCmd : String → Sh String) :
    Sh Unit := do
  let (opts, ops) ← match getopt "F:v:f:" false [] (args.length + 1) args with
    | .ok r => pure r
    | .error e =>
      match e with
      | .needsArgument c => say name ("option requires an argument -- " ++ String.singleton c)
      | .unknown c => say name ("not an option: -" ++ String.singleton c)
      | .unknownLong w | .ambiguous w _ => say name ("not an option: " ++ w)
      | .needsArgumentLong l | .takesNoArgument l => say name ("not an option: --" ++ l)
      err (awkUsage name)
      exitWith 2
  let w ← get
  let progFiles := opts.filterMap fun (c, v) => if c == 'f' then some v else none
  let (src, operands) ← match progFiles, ops with
    | [], p :: rest => pure (p, rest)
    | [], [] =>
      err (awkUsage name)
      exitWith 2
    | fs, _ =>
      let mut text := ""
      for f in fs do
        match ← readOperand f with
        | .ok bs => text := text ++ Text.ofBytes bs ++ "\n"
        | .error _ =>
          say name ("couldn't open file " ++ f)
          exitWith 2
      pure (text, ops)
  let prog ← match parseProgram src with
    | .ok p => pure p
    | .error msg =>
      say name msg
      exitWith 2
  let fs := match optArg opts 'F' with
    | some v => if v == "t" then "\t" else unescapeValue v
    | none => " "
  let assigns := opts.filterMap fun (c, v) => if c == 'v' then assignment? v else none
  let mut sources : List Source := []
  let mut size := 0
  for o in operands do
    match assignment? o with
    | some (k, v) => sources := sources ++ [.assign k (unescapeValue v)]
    | none =>
      match ← readOperand o with
      | .ok bs =>
        size := size + bs.length
        sources := sources ++ [.file o (Text.ofBytes bs)]
      | .error _ => sources := sources ++ [.missing o]
  if !sources.any (fun s => match s with | .file _ _ | .missing _ => true | _ => false) then
    let bs ← readStdin
    size := size + bs.length
    sources := sources ++ [.file "" (Text.ofBytes bs)]
  let w2 ← get
  let readFile (f : String) : Option String :=
    match w2.p.fs.stat w2.sh.cwd f with
    | .ok (.file c _) => some c
    | _ => none
  let st0 := startState name fs assigns w.sh.environment operands sources
  let capture (cmd : String) : String :=
    match (captureCmd cmd).runFrom w2 with
    | (.ok text, _) => text
    | (.error _, _) => ""
  let (result, st) := runAwk prog readFile capture size st0
  let pipes ← applyEffects name runCmd st.effects.toList []
  for (cmd, t) in pipes do
    let _ ← runCmd cmd (some (Text.toBytes t))
  match result with
  | .ok () => exitWith st.exitCode
  | .error f =>
    if f.exiting || f.nexting then exitWith st.exitCode
    else
      say name f.message
      exitWith f.code

end Fanout.Programs
