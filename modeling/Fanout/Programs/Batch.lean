import Fanout.Programs.Basic
import Fanout.Programs.Info

/-!
# Building command lines from input: `xargs`, and the options of `timeout`

`xargs` reads items from its input and runs a command with as many of them as fit, or a set
number at a time. By default items are separated by blanks and newlines, and quotes and
backslashes protect what they enclose; with `-0` or `-d` they are separated by one character
and taken as they are. With `-L` a command takes the items of a number of lines, and with `-I`
each line is one item that replaces a marker in the command.

This module reads the input and plans the command lines; running them is the shell's part.
-/

namespace Fanout.Programs

open Fanout.Posix

/-- A fault in quoted input. -/
inductive QuoteFault where
  | single
  | double
  deriving BEq

/-- What a run of `xargs` is asked to do. -/
structure BatchPlan where
  /-- The one character that ends an item (`-0`, `-d`), instead of blanks and quotes. -/
  delimiter : Option Char := none
  /-- At most this many items a command (`-n`). -/
  maxArgs : Option Nat := none
  /-- The items of at most this many lines a command (`-L`). -/
  maxLines : Option Nat := none
  /-- The marker each line replaces in the command (`-I`). -/
  marker : Option String := none
  /-- Run nothing when there are no items (`-r`). -/
  skipEmpty : Bool := false
  /-- Write each command line to standard error before running it (`-t`). -/
  trace : Bool := false
  /-- An item that ends the input (`-E`). -/
  endItem : Option String := none
  /-- The file to read the items from instead of standard input (`-a`). -/
  source : Option String := none
  /-- The bytes a command line may take (`-s`). -/
  maxChars : Nat := 131072
  /-- The command and its first arguments. -/
  command : List String := ["echo"]

/-- Split quoted input into lines of items: blanks and newlines end items, a backslash keeps
the next character, and quotes keep everything to their end, which must come before the end
of the line. A line that ends in a blank goes on in the next one, and lines without items are
dropped. With `whole`, blanks do not end items: each line is one item, its leading blanks
dropped. -/
def readQuotedLines (whole : Bool) (input : List Char) : Except QuoteFault (List (List String)) :=
  let blank (c : Char) : Bool := c == ' ' || c == '\t'
  let flush (item : Option String) (line : List String) : List String :=
    match item with
    | some i => line ++ [i]
    | none => line
  let rec go : Nat → List Char → Option String → List String → Bool → List (List String) →
      Except QuoteFault (List (List String))
    | 0, _, _, _, _, acc => .ok acc
    | _ + 1, [], item, line, _, acc =>
      let line := flush item line
      .ok (if line.isEmpty then acc else acc ++ [line])
    | k + 1, '\n' :: rest, item, line, lastBlank, acc =>
      let line := flush item line
      if line.isEmpty then go k rest none [] false acc
      else if lastBlank && !whole then go k rest none line false acc
      else go k rest none [] false (acc ++ [line])
    | k + 1, '\\' :: c :: rest, item, line, _, acc => go k rest (some ((item.getD "").push c)) line false acc
    | k + 1, '\'' :: rest, item, line, _, acc =>
      let inside := rest.takeWhile (· != '\'')
      let after := rest.drop inside.length
      if after.isEmpty || inside.contains '\n' then .error .single
      else go k (after.drop 1) (some (item.getD "" ++ String.ofList inside)) line false acc
    | k + 1, '"' :: rest, item, line, _, acc =>
      let inside := rest.takeWhile (· != '"')
      let after := rest.drop inside.length
      if after.isEmpty || inside.contains '\n' then .error .double
      else go k (after.drop 1) (some (item.getD "" ++ String.ofList inside)) line false acc
    | k + 1, c :: rest, item, line, _, acc =>
      if blank c then
        if whole then
          if item.isNone then go k rest none line true acc
          else go k rest (some ((item.getD "").push c)) line true acc
        else go k rest none (flush item line) true acc
      else go k rest (some ((item.getD "").push c)) line false acc
  go (input.length + 1) input none [] false []

/-- Split input at a delimiter: every piece is an item, empty pieces too, and a last piece with
no delimiter after it. -/
def readDelimited (d : Char) (cs : List Char) : List String :=
  let pieces := (String.ofList cs).splitOn (String.singleton d)
  match pieces.getLast? with
  | some "" => pieces.dropLast
  | _ => pieces

/-- The items up to the one equal to `endItem`. -/
def untilEnd (endItem : Option String) (items : List String) : List String :=
  match endItem with
  | some e => if e.isEmpty then items else items.takeWhile (· != e)
  | none => items

/-- The lines of items up to the item equal to `endItem`. -/
def linesUntilEnd (endItem : Option String) : List (List String) → List (List String)
  | [] => []
  | l :: rest =>
    match endItem with
    | some e =>
      if !e.isEmpty && l.contains e then
        let kept := l.takeWhile (· != e)
        if kept.isEmpty then [] else [kept]
      else l :: linesUntilEnd endItem rest
    | none => l :: rest

/-- The items of one command line, from the front of `xs`: more while fewer than `per` are
taken and the next fits in `room` bytes (each item taking its length and one more). -/
def takeGroup (per : Option Nat) (room : Nat) : List String → Nat → List String →
    List String × List String
  | [], _, acc => (acc.reverse, [])
  | x :: xs, used, acc =>
    if per.any (acc.length ≥ ·) || used + x.length + 1 > room then (acc.reverse, x :: xs)
    else takeGroup per room xs (used + x.length + 1) (x :: acc)

theorem takeGroup_rest_length (per : Option Nat) (room : Nat) :
    ∀ (xs : List String) (used : Nat) (acc : List String),
      (takeGroup per room xs used acc).2.length ≤ xs.length
  | [], _, _ => by simp [takeGroup]
  | x :: xs, used, acc => by
    simp only [takeGroup]
    split
    · simp
    · exact Nat.le_succ_of_le (takeGroup_rest_length per room xs _ _)

/-- Group items into command lines: each takes at least one item, and then as `takeGroup`
allows. -/
def groupItems (per : Option Nat) (room : Nat) : List String → List (List String)
  | [] => []
  | first :: rest =>
    (takeGroup per room rest (first.length + 1) [first]).1 ::
      groupItems per room (takeGroup per room rest (first.length + 1) [first]).2
  termination_by items => items.length
  decreasing_by
    exact Nat.lt_succ_of_le (takeGroup_rest_length per room rest (first.length + 1) [first])

/-- Group lines into command lines of the items of `per` lines each. -/
def groupLines (per : Nat) (lines : List (List String)) : List (List String) :=
  let rec go : Nat → List (List String) → List (List String)
    | 0, _ => []
    | _ + 1, [] => []
    | k + 1, ls => (ls.take per).flatten :: go k (ls.drop per)
  go (lines.length + 1) lines

/-- Replace every `marker` in `s` by `item`. -/
def replaceMarker (marker item s : String) : String :=
  if marker.isEmpty then s else s.replace marker item

/-- Read `xargs`'s options: the plan, or the message for a bad option value. -/
def readBatchOptions (name : String) (args : List String) : Sh BatchPlan := do
  let (opts, rest) ← options name "0a:d:E:e::I:i::L:l::n:P:prs:tx" false args
    [("null", '0'), ("arg-file", 'a'), ("delimiter", 'd'), ("eof", 'e'), ("replace", 'i'),
     ("max-lines", 'l'), ("max-args", 'n'), ("max-procs", 'P'), ("interactive", 'p'),
     ("no-run-if-empty", 'r'), ("max-chars", 's'), ("verbose", 't'), ("exit", 'x')]
  let number (c : Char) : Sh (Option Nat) := do
    match optArg opts c with
    | some v =>
      match v.toNat? with
      | some k =>
        if k == 0 then
          say name ("value " ++ v ++ " for -" ++ String.singleton c ++ " option should be >= 1")
          exitWith 1
        pure (some k)
      | none =>
        say name ("invalid number " ++ (← quoted v) ++ " for -" ++ String.singleton c ++ " option")
        exitWith 1
    | none => pure none
  let delimiter ← match optArg opts 'd' with
    | some v =>
      match v.toList with
      | [c] => pure (some c)
      | ['\\', 'n'] => pure (some '\n')
      | ['\\', 't'] => pure (some '\t')
      | ['\\', '0'] => pure (some (Char.ofNat 0))
      | ['\\', '\\'] => pure (some '\\')
      | _ =>
        say name ("invalid input delimiter specification " ++ v ++
          ": the delimiter must be either a single character or an escape sequence starting with \\.")
        exitWith 1
    | none => pure (if hasOpt opts '0' then some (Char.ofNat 0) else none)
  let marker := match optArg opts 'I' with
    | some m => some m
    | none => (optArg opts 'i').map fun m => if m.isEmpty then "\x7b\x7d" else m
  let maxLines ← number 'L'
  let maxLines := if maxLines.isNone && hasOpt opts 'l' then
      some (((optArg opts 'l').bind String.toNat?).getD 1)
    else maxLines
  let maxArgs ← number 'n'
  let maxChars := ((optArg opts 's').bind String.toNat?).getD 131072
  let endItem := match optArg opts 'E' with
    | some e => some e
    | none => optArg opts 'e'
  pure { delimiter, maxArgs, maxLines := if marker.isSome then some 1 else maxLines, marker,
         skipEmpty := hasOpt opts 'r', trace := hasOpt opts 't' || hasOpt opts 'p', endItem,
         source := optArg opts 'a', maxChars, command := if rest.isEmpty then ["echo"] else rest }

/-- The command lines a plan runs on the given input, or the fault in its quoting. -/
def BatchPlan.commands (plan : BatchPlan) (input : List Char) : Except QuoteFault (List (List String)) :=
  match plan.marker with
  | some m =>
    let items : Except QuoteFault (List String) := match plan.delimiter with
      | some d => .ok (untilEnd plan.endItem (readDelimited d input))
      | none => (readQuotedLines true input).map fun ls =>
        (linesUntilEnd plan.endItem ls).map fun l => " ".intercalate l
    items.map fun is => is.map fun i => plan.command.map (replaceMarker m i)
  | none =>
    let groups : Except QuoteFault (List (List String)) := match plan.delimiter, plan.maxLines with
      | some d, some per =>
        .ok (groupLines per ((untilEnd plan.endItem (readDelimited d input)).map fun i => [i]))
      | some d, none =>
        .ok (groupItems plan.maxArgs (plan.maxChars - (plan.command.map (·.length + 1)).foldl (· + ·) 0)
          (untilEnd plan.endItem (readDelimited d input)))
      | none, some per =>
        (readQuotedLines false input).map fun ls => groupLines per (linesUntilEnd plan.endItem ls)
      | none, none =>
        (readQuotedLines false input).map fun ls =>
          groupItems plan.maxArgs (plan.maxChars - (plan.command.map (·.length + 1)).foldl (· + ·) 0)
            (linesUntilEnd plan.endItem ls).flatten
    groups.map fun gs =>
      if gs.isEmpty then (if plan.skipEmpty then [] else [plan.command])
      else gs.map (plan.command ++ ·)

/-- The message for a fault in quoted input. -/
def QuoteFault.message : QuoteFault → String
  | .single => "unmatched single quote; by default quotes are special to xargs unless you use the -0 option"
  | .double => "unmatched double quote; by default quotes are special to xargs unless you use the -0 option"

/-- What `timeout` is asked to do. -/
structure TimeLimit where
  /-- The nanoseconds the command may run; zero for no limit. -/
  limit : Nat
  /-- The signal sent when the time is up. -/
  signal : Nat := 15
  /-- The nanoseconds after that signal when `KILL` follows, if any. -/
  killAfter : Option Nat := none
  /-- End with the command's own status when it was stopped. -/
  preserve : Bool := false
  /-- Signal only the command, not its children. -/
  foreground : Bool := false
  /-- Report each signal sent. -/
  verbose : Bool := false
  /-- The command. -/
  command : List String

/-- Read `timeout`'s options and duration. -/
def readTimeLimit (name : String) (args : List String) (signalNumber : String → Option Nat) :
    Sh TimeLimit := do
  let (opts, rest) ← tryCatch (options name "fk:ps:v" false args
    [("foreground", 'f'), ("kill-after", 'k'), ("preserve-status", 'p'), ("signal", 's'),
     ("verbose", 'v')]) fun _ => exitWith 125
  let duration (v : String) : Sh Nat := do
    match intervalNanos v with
    | some d => pure d
    | none =>
      say name ("invalid time interval " ++ (← quoted v))
      tryHelp name
      exitWith 125
  let signal ← match optArg opts 's' with
    | some s =>
      match signalNumber s with
      | some k => pure k
      | none =>
        say name (s ++ ": invalid signal")
        tryHelp name
        exitWith 125
    | none => pure 15
  let killAfter ← match optArg opts 'k' with
    | some v => pure (some (← duration v))
    | none => pure none
  match rest with
  | [] | [_] =>
    tryCatch (usageError name "missing operand") fun _ => exitWith 125
  | d :: command =>
    pure { limit := ← duration d, signal, killAfter, preserve := hasOpt opts 'p',
           foreground := hasOpt opts 'f', verbose := hasOpt opts 'v', command }

/-- How a program starts a command as its child: the command's name, its arguments and
standard input (inherited when none), and how the child ended, or the status (127 or 126) and
the error when it could not be started. -/
abbrev Spawn := String → List String → Option Outlet → Sh (Except (Nat × Fanout.Host.OsError) Exit)

/-- The `timeout` program: run a command, and send it a signal when its time is up. It ends
with status 124 when the time ran out, else as the command did. -/
def timeoutProgram (name : String) (args : List String) (spawn : Spawn) : Sh Unit := do
  let plan ← readTimeLimit name args signalNumber?
  let start := (← getProc).now
  let deadline := start + plan.limit
  let group := (← getProc).group
  if plan.limit > 0 then
    let extra := match plan.killAfter with
      | some k => [(deadline, plan.signal), (deadline + k, 9)]
      | none => [(deadline, plan.signal)]
    modifyProc fun p => { p with group := extra.foldl (fun g e => insertSignal e g) p.group }
  let r ← spawn (plan.command.headD "") (plan.command.drop 1) none
  modifyProc fun p => { p with group := group }
  match r with
  | .error (code, e) =>
    say name ("failed to run command " ++ (← quoted (plan.command.headD "")) ++ ": " ++ e.description)
    exitWith code
  | .ok ended =>
    let timedOut := plan.limit > 0 && (← getProc).now ≥ deadline
    if timedOut && plan.verbose then
      say name ("sending signal " ++ listedName plan.signal ++ " to command " ++
        (← quoted (plan.command.headD "")))
    match ended with
    | .signal s =>
      if !timedOut then throw (.killed s)
      else if s == 9 && !plan.foreground then throw (.killed 9)
      else exitWith (if plan.preserve || s == 9 then 128 + s else 124)
    | .code c => exitWith (if timedOut && !plan.preserve then 124 else c)

/-- The `xargs` program: run a command with the items of the input as arguments. -/
def xargsProgram (name : String) (args : List String) (spawn : Spawn) : Sh Unit := do
  let plan ← readBatchOptions name args
  let input ← match plan.source with
    | some f =>
      match ← readOperand f with
      | .ok bs => pure bs
      | .error e =>
        say name ("cannot open " ++ (← quoted f) ++ ": " ++ e.description)
        exitWith 1
    | none => readStdin
  let commands ← match plan.commands (Text.ofBytes input).toList with
    | .ok cs => pure cs
    | .error fault =>
      say name fault.message
      exitWith 1
  let mut failed := false
  for c in commands do
    let cmd := c.headD ""
    if plan.trace then err (" ".intercalate c ++ "\n")
    match ← spawn cmd (c.drop 1) (some .null) with
    | .error (code, e) =>
      say name (cmd ++ ": " ++ e.description)
      exitWith code
    | .ok (.signal s) =>
      say name (cmd ++ ": terminated by signal " ++ toString s)
      exitWith 125
    | .ok (.code 255) =>
      say name (cmd ++ ": exited with status 255; aborting")
      exitWith 124
    | .ok (.code k) => if k != 0 then failed := true
  exitWith (if failed then 123 else 0)

end Fanout.Programs
