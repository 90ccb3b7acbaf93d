import Fanout.Programs.Basic
import Fanout.Programs.Lines
import Fanout.Text.Regex

/-!
# The `sed` program

`sed` reads its input line by line into the pattern space, runs the script on it, and (unless
`-n`) writes the pattern space at the end of each cycle. A command may carry one address or a
range of two: a line number, `$` for the last line, `first~step`, or a regular expression
between slashes (or `\c…c`); `!` after the addresses inverts them.

The commands are `s`, `y`, `p`, `P`, `d`, `D`, `n`, `N`, `q`, `Q`, `=`, `a`, `i`, `c`, the
hold space's `h`, `H`, `g`, `G`, `x`, branches `b`, `t`, `T` to labels `:name`, and blocks in
braces. In the replacement of `s`, `&` is the match and `\1`…`\9` its groups. Expressions are
basic, or extended with `-E`. `-i` writes each file's result back to it.

In a UTF-8 locale a valid UTF-8 input is read as characters, so `.` matches a whole character.
-/

namespace Fanout.Programs

open Fanout.Text Fanout.Posix

/-- An address. -/
inductive SedAddr where
  | line (n : Nat)
  | last
  | regex (re : Regex)
  | step (first step : Nat)
  deriving Inhabited

/-- A piece of the replacement of `s`: text, the whole match, or a group. -/
inductive RepPiece where
  | text (s : String)
  | whole
  | group (k : Nat)
  deriving Inhabited

/-- What a command does. -/
inductive SedOp where
  | subst (re : Regex) (rep : List RepPiece) (global : Bool) (nth : Nat) (print : Bool)
  | translate (pairs : List (Char × Char))
  | print
  | printFirst
  | delete
  | deleteFirst
  | next
  | appendNext
  | quit (code : Nat) (silent : Bool)
  | lineNumber
  | append (text : String)
  | insert (text : String)
  | change (text : String)
  | hold
  | holdAppend
  | fetch
  | fetchAppend
  | exchange
  | branch (label : String) (onSubst : Option Bool)
  | label (name : String)
  /-- `{`: the index of its `}`. -/
  | block (close : Nat)
  | blockEnd
  | comment
  deriving Inhabited

/-- A command with its addresses. -/
structure SedCmd where
  first : Option SedAddr := none
  second : Option SedAddr := none
  negated : Bool := false
  op : SedOp
  deriving Inhabited

/-! ## Reading the script -/

/-- The reader: the script left and how many characters were read, for messages. -/
structure SedReader where
  cs : List Char
  pos : Nat := 0
  extended : Bool

/-- A script error: where, and the message. -/
def sedError {α : Type} (rd : SedReader) (msg : String) : Except String α :=
  .error ("-e expression #1, char " ++ toString rd.pos ++ ": " ++ msg)

/-- Take `k` characters. -/
def SedReader.drop (rd : SedReader) (k : Nat) : SedReader :=
  { rd with cs := rd.cs.drop k, pos := rd.pos + min k rd.cs.length }

/-- Skip blanks (and, with `lines`, newlines and `;`). -/
def SedReader.skip (rd : SedReader) (lines : Bool) : SedReader :=
  let n := (rd.cs.takeWhile fun c => c == ' ' || c == '\t' || (lines && (c == '\n' || c == ';'))).length
  rd.drop n

/-- Read text up to an unescaped delimiter: the text with `\delim` made plain and `\n` a
newline, or none when the delimiter never comes. -/
def delimited (delim : Char) (regexText : Bool) : Nat → List Char → String → Option (String × Nat)
  | 0, _, _ => none
  | _ + 1, [], _ => none
  | fuel + 1, c :: rest, acc =>
    if c == delim then some (acc, 1)
    else if c == '\\' then
      match rest with
      | d :: r =>
        let piece :=
          if d == delim then String.singleton d
          else if d == 'n' then (if regexText then "\\n" else "\n")
          else "\\" ++ String.singleton d
        (delimited delim regexText fuel r (acc ++ piece)).map fun (t, k) => (t, k + 2)
      | [] => none
    else if c == '\n' && regexText then none
    else (delimited delim regexText fuel rest (acc.push c)).map fun (t, k) => (t, k + 1)

/-- Read the replacement of `s` into pieces. -/
def repPieces : Nat → List Char → List RepPiece → List RepPiece
  | 0, _, acc => acc.reverse
  | _ + 1, [], acc => acc.reverse
  | fuel + 1, c :: rest, acc =>
    let push (s : String) (acc : List RepPiece) : List RepPiece :=
      match acc with
      | .text t :: more => .text (t ++ s) :: more
      | _ => .text s :: acc
    if c == '&' then repPieces fuel rest (.whole :: acc)
    else if c == '\\' then
      match rest with
      | d :: r =>
        if d.isDigit then repPieces fuel r (.group (d.toNat - 48) :: acc)
        else if d == 'n' then repPieces fuel r (push "\n" acc)
        else if d == 't' then repPieces fuel r (push "\t" acc)
        else repPieces fuel r (push (String.singleton d) acc)
      | [] => repPieces fuel [] (push "\\" acc)
    else repPieces fuel rest (push (String.singleton c) acc)

/-- Read an address, if one starts here. -/
def readAddr (rd : SedReader) : Except String (Option SedAddr × SedReader) :=
  match rd.cs with
  | '$' :: _ => .ok (some .last, rd.drop 1)
  | c :: rest =>
    if c.isDigit then
      let ds := rd.cs.takeWhile Char.isDigit
      let n := ds.foldl (fun n d => 10 * n + (d.toNat - 48)) 0
      let rd2 := rd.drop ds.length
      match rd2.cs with
      | '~' :: r =>
        let ds2 := r.takeWhile Char.isDigit
        let k := ds2.foldl (fun n d => 10 * n + (d.toNat - 48)) 0
        .ok (some (.step n k), rd2.drop (1 + ds2.length))
      | _ => .ok (some (.line n), rd2)
    else if c == '/' || c == '\\' then
      let (delim, body, skip) := if c == '/' then ('/', rest, 1) else (rest.headD '/', rest.drop 1, 2)
      match delimited delim true (body.length + 1) body "" with
      | some (src, k) =>
        let rd2 := rd.drop (skip + k)
        let (icase, rd2) := match rd2.cs with
          | 'I' :: _ => (true, rd2.drop 1)
          | _ => (false, rd2)
        match Regex.parse rd.extended src icase with
        | .ok re => .ok (some (.regex re), rd2)
        | .error msg => sedError rd2 msg
      | none => sedError (rd.drop (rd.cs.length)) "unterminated address regex"
    else .ok (none, rd)
  | [] => .ok (none, rd)

/-- The text of `a`, `i` or `c`: the rest of the line (after `\` and a newline, the following
lines while each ends with `\`). -/
def commandText (rd : SedReader) : String × SedReader :=
  let rd := rd.skip false
  let (rd, classic) := match rd.cs with
    | '\\' :: '\n' :: _ => (rd.drop 2, true)
    | '\\' :: _ => (rd.drop 1, false)
    | _ => (rd, false)
  let rd := if classic then rd else rd.skip false
  let rec go : Nat → List Char → String → Nat → String × Nat
    | 0, _, acc, k => (acc, k)
    | _ + 1, [], acc, k => (acc, k)
    | fuel + 1, c :: rest, acc, k =>
      if c == '\n' then (acc, k)
      else if c == '\\' then
        match rest with
        | d :: r => go fuel r (acc.push d) (k + 2)
        | [] => (acc, k + 1)
      else go fuel rest (acc.push c) (k + 1)
  let (text, used) := go (rd.cs.length + 1) rd.cs "" 0
  (text, rd.drop used)

/-- A label's name: up to a newline or `;`. -/
def labelName (rd : SedReader) (semicolon : Bool) : String × SedReader :=
  let rd := rd.skip false
  let name := rd.cs.takeWhile fun c => c != '\n' && !(semicolon && c == ';')
  let trimmed := (name.reverse.dropWhile fun c => c == ' ' || c == '\t').reverse
  (String.ofList trimmed, rd.drop name.length)

/-- Read one command after its addresses. -/
def readOp (rd : SedReader) : Except String (SedOp × SedReader) :=
  match rd.cs with
  | [] => sedError rd "missing command"
  | c :: rest =>
    let rd1 := rd.drop 1
    match c with
    | 'p' => .ok (.print, rd1)
    | 'P' => .ok (.printFirst, rd1)
    | 'd' => .ok (.delete, rd1)
    | 'D' => .ok (.deleteFirst, rd1)
    | 'n' => .ok (.next, rd1)
    | 'N' => .ok (.appendNext, rd1)
    | '=' => .ok (.lineNumber, rd1)
    | 'h' => .ok (.hold, rd1)
    | 'H' => .ok (.holdAppend, rd1)
    | 'g' => .ok (.fetch, rd1)
    | 'G' => .ok (.fetchAppend, rd1)
    | 'x' => .ok (.exchange, rd1)
    | '}' => .ok (.blockEnd, rd1)
    | '#' =>
      let n := (rest.takeWhile (· != '\n')).length
      .ok (.comment, rd1.drop n)
    | 'q' | 'Q' =>
      let rd2 := rd1.skip false
      let ds := rd2.cs.takeWhile Char.isDigit
      .ok (.quit (ds.foldl (fun n d => 10 * n + (d.toNat - 48)) 0) (c == 'Q'), rd2.drop ds.length)
    | 'a' | 'i' | 'c' =>
      let (text, rd2) := commandText rd1
      .ok ((if c == 'a' then .append text else if c == 'i' then .insert text else .change text), rd2)
    | ':' =>
      let (name, rd2) := labelName rd1 false
      if name.isEmpty then sedError rd1 "\":\" lacks a label" else .ok (.label name, rd2)
    | 'b' | 't' | 'T' =>
      let (name, rd2) := labelName rd1 true
      .ok (.branch name (if c == 'b' then none else some (c == 't')), rd2)
    | 'y' =>
      match rest with
      | d :: body =>
        match delimited d false (body.length + 1) body "" with
        | some (src, k) =>
          let after := body.drop k
          match delimited d false (after.length + 1) after "" with
          | some (dst, k2) =>
            if src.length != dst.length then
              sedError (rd1.drop (1 + k + k2)) "strings for `y' command are different lengths"
            else .ok (.translate (src.toList.zip dst.toList), rd1.drop (1 + k + k2))
          | none => sedError (rd1.drop rest.length) "unterminated `y' command"
        | none => sedError (rd1.drop rest.length) "unterminated `y' command"
      | [] => sedError rd1 "unterminated `y' command"
    | 's' =>
      match rest with
      | d :: body =>
        match delimited d true (body.length + 1) body "" with
        | some (src, k) =>
          let after := body.drop k
          match delimited d false (after.length + 1) after "" with
          | some (rep, k2) =>
            let rd2 := rd1.drop (1 + k + k2)
            let flags := rd2.cs.takeWhile fun f => f == 'g' || f == 'p' || f == 'i' || f == 'I' || f.isDigit
            let rd3 := rd2.drop flags.length
            let bad := match (rd3.skip false).cs with
              | [] => false
              | f :: _ => !(f == '\n' || f == ';' || f == '}' || f == '#')
            if bad then sedError (rd3.drop 1) "unknown option to `s'"
            else
              let ds := flags.filter Char.isDigit
              let nth := ds.foldl (fun n x => 10 * n + (x.toNat - 48)) 0
              let icase := flags.contains 'i' || flags.contains 'I'
              match Regex.parse rd.extended src icase with
              | .ok re =>
                .ok (.subst re (repPieces (rep.length + 1) rep.toList []) (flags.contains 'g')
                  (if nth == 0 then 1 else nth) (flags.contains 'p'), rd3)
              | .error msg => sedError rd3 msg
          | none => sedError (rd1.drop rest.length) "unterminated `s' command"
        | none => sedError (rd1.drop rest.length) "unterminated `s' command"
      | [] => sedError rd1 "unterminated `s' command"
    | _ => sedError rd1 ("unknown command: `" ++ String.singleton c ++ "'")

/-- Read a whole script into its commands, with each `{` knowing its `}`. -/
def readScript (extended : Bool) (src : String) : Except String (List SedCmd) := do
  let rec go : Nat → SedReader → List SedCmd → List Nat → Except String (List SedCmd)
    | 0, _, acc, _ => .ok acc
    | fuel + 1, rd, acc, opens => do
      let rd := rd.skip true
      if rd.cs.isEmpty then
        if opens.isEmpty then return acc
        else sedError rd "unmatched `\x7b'"
      let (a1, rd) ← readAddr rd
      let (a2, rd) ← match a1, rd.cs with
        | some _, ',' :: _ =>
          match readAddr ((rd.drop 1).skip false) with
          | .ok (some a, rd2) => pure (some a, rd2)
          | .ok (none, rd2) => sedError rd2 "unexpected `,'"
          | .error e => throw e
        | _, _ => pure (none, rd)
      let rd := rd.skip false
      let (neg, rd) := match rd.cs with
        | '!' :: _ => (true, (rd.drop 1).skip false)
        | _ => (false, rd)
      match rd.cs with
      | '{' :: _ =>
        go fuel (rd.drop 1) (acc ++ [{ first := a1, second := a2, negated := neg, op := .block 0 }])
          (acc.length :: opens)
      | _ =>
        let (op, rd2) ← readOp rd
        match op with
        | .blockEnd =>
          match opens with
          | o :: more =>
            let acc := acc.set o { (acc.getD o default) with op := .block (acc.length) }
            go fuel rd2 (acc ++ [{ op := .blockEnd }]) more
          | [] => sedError rd2 "unexpected `\x7d'"
        | _ =>
          if (a1.isSome && (match op with
              | .label _ => true
              | _ => false)) then sedError rd2 ": doesn't want any addresses"
          else go fuel rd2 (acc ++ [{ first := a1, second := a2, negated := neg, op }]) opens
  go (src.length + 2) { cs := src.toList, extended } [] []

/-! ## Running -/

/-- The state of a run: input lines left, the line number, pattern and hold spaces, what was
written, texts to append at the end of the cycle, the ranges that are open, whether a
substitution was made since the last `t`, and whether to stop. -/
structure SedState where
  rest : List String
  lineNo : Nat := 0
  space : String := ""
  holdSpace : String := ""
  output : String := ""
  appended : String := ""
  openRanges : List Nat := []
  substituted : Bool := false
  quitCode : Option Nat := none
  /-- Whether the last line read ended without a newline. -/
  lastOpen : Bool := false
  inputOpen : Bool := false
  deriving Inhabited

/-- Whether an address matches the current line. -/
def SedAddr.matches (a : SedAddr) (st : SedState) : Bool :=
  match a with
  | .line n => st.lineNo == n
  | .last => st.rest.isEmpty
  | .regex re => re.test st.space
  | .step f k => if k == 0 then st.lineNo == f else st.lineNo ≥ f && (st.lineNo - f) % k == 0

/-- Apply a replacement to one match. -/
def replacement (s : Array Char) (start stop : Nat) (caps : Captures) (rep : List RepPiece) : String :=
  String.join (rep.map fun p => match p with
    | .text t => t
    | .whole => String.ofList ((s.toList.drop start).take (stop - start))
    | .group k =>
      match caps.get? k with
      | some (a, b) => String.ofList ((s.toList.drop a).take (b - a))
      | none => "")

/-- Substitute in a text: the result and whether a replacement was made. -/
def substitute (re : Regex) (rep : List RepPiece) (global : Bool) (nth : Nat) (text : String) :
    String × Bool :=
  let s := text.toList.toArray
  let rec go : Nat → Nat → Nat → String → Bool → String × Bool
    | 0, _, _, acc, done => (acc, done)
    | fuel + 1, pos, count, acc, done =>
      if pos > s.size then (acc, done)
      else
        match re.search s pos with
        | none => (acc ++ String.ofList (s.toList.drop pos), done)
        | some (a, b, caps) =>
          let count := count + 1
          let before := String.ofList ((s.toList.drop pos).take (a - pos))
          let hit := count ≥ nth && (global || count == nth)
          let piece := if hit then replacement s a b caps rep else String.ofList ((s.toList.drop a).take (b - a))
          let acc := acc ++ before ++ piece
          if hit && !global then (acc ++ String.ofList (s.toList.drop b), true)
          else if b == a then
            -- An empty match: copy one character and go on after it.
            if a < s.size then go fuel (a + 1) count (acc.push (s.getD a ' ')) (done || hit)
            else (acc, done || hit)
          else go fuel b count acc (done || hit)
  go (s.size + 2) 0 0 "" false

/-- Read the next input line into a state. -/
def SedState.readLine (st : SedState) : Option (String × SedState) :=
  match st.rest with
  | l :: more => some (l, { st with rest := more, lineNo := st.lineNo + 1 })
  | [] => none

/-- Whether command `i` applies to the current line, updating the open ranges. -/
def applies (cmds : Array SedCmd) (i : Nat) (st : SedState) : Bool × SedState :=
  let c := cmds.getD i default
  let (hit, st) : Bool × SedState := match c.first, c.second with
    | none, _ => (true, st)
    | some a, none => (a.matches st, st)
    | some a, some b =>
      if st.openRanges.contains i then
        let ends := match b with
          | .line n => decide (st.lineNo ≥ n)
          | _ => b.matches st
        (true, if ends then { st with openRanges := st.openRanges.filter (· != i) } else st)
      else if a.matches st then
        let single := match b with
          | .line n => decide (n ≤ st.lineNo)
          | _ => false
        (true, if single then st else { st with openRanges := i :: st.openRanges })
      else (false, st)
  (hit != c.negated, st)

/-- The place of a label, or the end of the script for none. -/
def labelAt (cmds : Array SedCmd) (name : String) : Nat :=
  if name.isEmpty then cmds.size
  else
    ((cmds.toList.zip (List.range cmds.size)).find? fun (c, _) => match c.op with
      | .label l => l == name
      | _ => false).map (·.2) |>.getD cmds.size

/-- How a cycle ended: normally, by deleting the pattern space, by `D` restarting it, or with
the input exhausted by `n`/`N`. -/
inductive CycleEnd where
  | done
  | deleted
  | restart
  | exhausted (print : Bool)

/-- Write the pattern space when the cycle ends and `-n` is off. -/
def SedState.flushLine (st : SedState) (quiet : Bool) : SedState :=
  let line := if quiet then "" else st.space ++ (if st.lastOpen then "" else "\n")
  { st with output := st.output ++ line ++ st.appended, appended := "" }

/-- Run commands from index `i` on the pattern space. -/
def runFrom (cmds : Array SedCmd) (quiet : Bool) : Nat → Nat → SedState → CycleEnd × SedState
  | 0, _, st => (.done, st)
  | fuel + 1, i, st =>
    if i ≥ cmds.size then (.done, st)
    else
      let (hit, st) := applies cmds i st
      let c := cmds.getD i default
      let next := runFrom cmds quiet fuel (i + 1)
      if !hit then
        match c.op with
        | .block close => runFrom cmds quiet fuel (close + 1) st
        | _ => next st
      else
        let newline (s : String) : String := s ++ "\n"
        match c.op with
        | .subst re rep global nth print =>
          let (r, done) := substitute re rep global nth st.space
          if done then
            let st := { st with space := r, substituted := true }
            next (if print then { st with output := st.output ++ newline st.space } else st)
          else next st
        | .translate pairs =>
          next { st with space := String.ofList (st.space.toList.map fun ch =>
            match pairs.find? (·.1 == ch) with
            | some (_, d) => d
            | none => ch) }
        | .print => next { st with output := st.output ++ newline st.space }
        | .printFirst => next { st with output := st.output ++ newline ((st.space.splitOn "\n").headD "") }
        | .delete => (.deleted, st)
        | .deleteFirst =>
          if st.space.contains '\n' then
            (.restart, { st with space := "\n".intercalate ((st.space.splitOn "\n").drop 1) })
          else (.deleted, st)
        | .next =>
          match st.readLine with
          | some (l, st2) =>
            let st2 := st2.flushLine quiet
            next { st2 with space := l, lastOpen := st2.rest.isEmpty && st.inputOpen }
          | none => (.exhausted (!quiet), st)
        | .appendNext =>
          match st.readLine with
          | some (l, st2) => next { st2 with space := st.space ++ "\n" ++ l, lastOpen := st2.rest.isEmpty && st.inputOpen }
          | none => (.exhausted (!quiet), st)
        | .quit code silent =>
          (if silent then .deleted else .done, { st with quitCode := some code })
        | .lineNumber => next { st with output := st.output ++ newline (toString st.lineNo) }
        | .append t => next { st with appended := st.appended ++ newline t }
        | .insert t => next { st with output := st.output ++ newline t }
        | .change t =>
          let inRange := c.second.isSome && st.openRanges.contains i
          let st := if c.negated || !inRange then { st with output := st.output ++ newline t } else st
          (.deleted, st)
        | .hold => next { st with holdSpace := st.space }
        | .holdAppend => next { st with holdSpace := st.holdSpace ++ "\n" ++ st.space }
        | .fetch => next { st with space := st.holdSpace }
        | .fetchAppend => next { st with space := st.space ++ "\n" ++ st.holdSpace }
        | .exchange => next { st with space := st.holdSpace, holdSpace := st.space }
        | .branch l onSubst =>
          let jump := match onSubst with
            | none => true
            | some want => st.substituted == want
          let st := if onSubst.isSome then { st with substituted := false } else st
          if jump then runFrom cmds quiet fuel (labelAt cmds l) st else next st
        | _ => next st

/-- Run the script over all lines. -/
def runSed (cmds : Array SedCmd) (quiet : Bool) (lines : List String) (lastOpen : Bool) : SedState :=
  let fuel := 64 * (cmds.size + 1) * (lines.length + 1) + 1024
  -- With `fresh`, a cycle starts by reading a line; after `D` it runs on what is left.
  let rec cycle : Nat → Bool → SedState → SedState
    | 0, _, st => st
    | k + 1, fresh, st =>
      match st.quitCode with
      | some _ => st
      | none =>
        let started : Option SedState :=
          if fresh then
            (st.readLine).map fun (l, st) =>
              { st with space := l, substituted := false, lastOpen := st.rest.isEmpty && lastOpen }
          else some st
        match started with
        | none => st
        | some st =>
          match runFrom cmds quiet fuel 0 st with
          | (.done, st) => cycle k true (st.flushLine quiet)
          | (.deleted, st) => cycle k true { st with output := st.output ++ st.appended, appended := "" }
          | (.restart, st) => cycle k false { st with output := st.output ++ st.appended, appended := "" }
          | (.exhausted print, st) =>
            let st := if print then st.flushLine false else { st with output := st.output ++ st.appended, appended := "" }
            { st with quitCode := some 0 }
  cycle (lines.length * (cmds.size + 2) + 2) true { rest := lines, inputOpen := lastOpen }

/-- The `sed` program. -/
def sedProgram (name : String) (args : List String) : Sh Unit := do
  let (opts, ops) ← options name "nEre:f:isuz" true args
    [("quiet", 'n'), ("silent", 'n'), ("expression", 'e'), ("file", 'f'),
     ("in-place", 'i'), ("regexp-extended", 'r'), ("separate", 's'), ("unbuffered", 'u'),
     ("null-data", 'z')]
  let extended := hasOpt opts 'E' || hasOpt opts 'r'
  let scripts := opts.filterMap fun (c, v) => if c == 'e' then some v else none
  let (script, files) ← match scripts, ops with
    | [], s :: rest => pure (s, rest)
    | [], [] => usageError name "no script specified"
    | ss, _ => pure ("\n".intercalate ss, ops)
  let utf8 := utf8Locale (← getShell)
  let toUnits (s : String) : String :=
    if utf8 then (Text.decode? s).getD s else s
  let fromUnits (orig : String) (s : String) : String :=
    if utf8 && (Text.decode? orig).isSome then Text.encode s else s
  let cmds ← match readScript extended (toUnits script) with
    | .ok c => pure c.toArray
    | .error msg =>
      say name msg
      exitWith 1
  let quiet := hasOpt opts 'n'
  if hasOpt opts 'i' then
    let mut ok := true
    for f in files do
      match ← readOperand f with
      | .ok bs =>
        let text := Text.ofBytes bs
        let (ls, closed) := splitLines (toUnits text)
        let st := runSed cmds quiet ls (!closed)
        let w ← get
        match w.p.fs.resolve w.sh.cwd f with
        | .ok q => modifyProc fun p => { p with fs := p.fs.put q (.file (fromUnits text st.output) 0o644) }
        | .error _ => pure ()
      | .error e =>
        say name ("can't read " ++ f ++ ": " ++ e.description)
        ok := false
    exitWith (if ok then 0 else 2)
  let files := if files.isEmpty then ["-"] else files
  let mut text := ""
  let mut ok := true
  for f in files do
    match ← readOperand f with
    | .ok bs => text := text ++ Text.ofBytes bs
    | .error e =>
      say name ("can't read " ++ f ++ ": " ++ e.description)
      ok := false
  let (ls, closed) := splitLines (toUnits text)
  let st := runSed cmds quiet ls (!closed)
  out (fromUnits text st.output)
  exitWith (match st.quitCode with
    | some c => if c != 0 then c else if ok then 0 else 2
    | none => if ok then 0 else 2)

end Fanout.Programs
