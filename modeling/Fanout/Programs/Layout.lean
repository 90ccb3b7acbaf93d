import Fanout.Programs.Basic
import Fanout.Posix.Numeric
import Fanout.Text.Regex

/-!
# Programs that lay lines out: `tac`, `nl`, `paste`, `comm`, `expand`, `unexpand` and `fold`

`tac` writes the records of each input in reverse order. `nl` numbers lines by a style per
section of a page. `paste` joins the lines of its inputs side by side, or each input's lines
into one (`-s`), with delimiters taken in turn from a list. `comm` sets the lines of two sorted
inputs in three columns: only in the first, only in the second, in both. `expand` turns tabs
into spaces up to the tab stops, `unexpand` turns runs of blanks that reach a tab stop back into
tabs, and `fold` breaks lines longer than a width.

All of them work on bytes; a line is the bytes up to a newline, and a last line without one is
given one on output, except by `tac`, which keeps records as they are.
-/

namespace Fanout.Programs

open Fanout.Posix Fanout.Text

/-- The records of a byte list split after (or, with `before`, before) each occurrence of a
separator, in order; the text after the last separator (or before the first) is a record of
its own when it is not empty. -/
def splitRecordsBy (sep : List Char) (before : Bool) (cs : List Char) : List (List Char) :=
  let n := sep.length
  let rec go : Nat → List Char → List Char → List (List Char) → List (List Char)
    | 0, rest, cur, acc => (cur.reverse ++ rest) :: acc
    | fuel + 1, rest, cur, acc =>
      match rest with
      | [] => cur.reverse :: acc
      | c :: more =>
        if n > 0 && sep.isPrefixOf rest then
          if before then go fuel (rest.drop n) sep.reverse (cur.reverse :: acc)
          else go fuel (rest.drop n) [] ((cur.reverse ++ sep) :: acc)
        else go fuel more (c :: cur) acc
  ((go (cs.length + 1) cs [] []).reverse).filter (!·.isEmpty)

/-- The `tac` program: `-s` names the separator, `-b` puts it before each record. -/
def tacProgram (name : String) (args : List String) : Sh Unit := do
  let (opts, files) ← options name "brs:" true args
    [("before", 'b'), ("regex", 'r'), ("separator", 's')]
  let sep := (optArg opts 's').getD "\n"
  if sep.isEmpty then
    say name "separator cannot be empty"
    exitWith 1
  let (inputs, ok) ← readInputs name files
  for (_, bs) in inputs do
    let records := splitRecordsBy sep.toList (hasOpt opts 'b') (Text.ofBytes bs).toList
    out (String.ofList records.reverse.flatten)
  exitWith (if ok then 0 else 1)

/-! ## `nl` -/

/-- Which lines of a section `nl` numbers. -/
inductive NumberStyle where
  /-- Every line. -/
  | all
  /-- Lines that are not empty. -/
  | nonEmpty
  /-- No line. -/
  | none
  /-- Lines a basic regular expression matches. -/
  | matching (re : Regex)

/-- Read a numbering style: `a`, `t`, `n` or `p` followed by a regular expression. -/
def NumberStyle.parse? (s : String) : Option NumberStyle :=
  match s.toList with
  | ['a'] => some .all
  | ['t'] => some .nonEmpty
  | ['n'] => some .none
  | 'p' :: re =>
    match Regex.parse false (String.ofList re) with
    | .ok r => some (.matching r)
    | .error _ => Option.none
  | _ => Option.none

/-- How `nl` numbers: the styles of header, body and footer, the first number and the step,
the field width and format, the separator, how many empty lines count as one, whether numbers
restart at each section, and the section delimiter. -/
structure NumberPlan where
  header : NumberStyle := .none
  body : NumberStyle := .nonEmpty
  footer : NumberStyle := .none
  start : Int := 1
  step : Int := 1
  width : Nat := 6
  format : String := "rn"
  separator : String := "\t"
  join : Nat := 1
  restart : Bool := true
  delimiter : String := "\\:"

/-- A line number in its field: right-aligned (`rn`), left-aligned (`ln`), or right-aligned with
leading zeros (`rz`). -/
def NumberPlan.field (p : NumberPlan) (k : Int) : String :=
  let digits := toString k.natAbs
  let sign := if k < 0 then "-" else ""
  let text := sign ++ digits
  match p.format with
  | "ln" => text ++ fill (p.width - text.length) ' '
  | "rz" => sign ++ fill (p.width - text.length) '0' ++ digits
  | _ => fill (p.width - text.length) ' ' ++ text

/-- Number lines by a plan. The state is the next number, the style of the section, and the
count of empty lines since the last numbered one. -/
def numberLines (p : NumberPlan) (lines : List String) : String :=
  let blank := fill (p.width + p.separator.length) ' '
  let d := p.delimiter
  let step (st : String × Int × NumberStyle × Nat) (l : String) :
      String × Int × NumberStyle × Nat :=
    let (acc, k, style, empties) := st
    let section? : Option NumberStyle :=
      if l == d ++ d ++ d then some p.header
      else if l == d ++ d then some p.body
      else if l == d then some p.footer
      else Option.none
    match section? with
    | some s => (acc ++ "\n", if p.restart then p.start else k, s, 0)
    | Option.none =>
      let numbered (acc : String) : String := acc ++ p.field k ++ p.separator ++ l ++ "\n"
      match style with
      | .all =>
        if p.join > 1 then
          if !l.isEmpty || empties + 1 == p.join then (numbered acc, k + p.step, style, 0)
          else (acc ++ blank ++ l ++ "\n", k, style, empties + 1)
        else (numbered acc, k + p.step, style, empties)
      | .nonEmpty =>
        if l.isEmpty then (acc ++ blank ++ "\n", k, style, empties)
        else (numbered acc, k + p.step, style, empties)
      | .none => (acc ++ blank ++ l ++ "\n", k, style, empties)
      | .matching re =>
        if re.test l then (numbered acc, k + p.step, style, empties)
        else (acc ++ blank ++ l ++ "\n", k, style, empties)
  (lines.foldl step ("", p.start, p.body, 0)).1

/-- The `nl` program. -/
def nlProgram (name : String) (args : List String) : Sh Unit := do
  let (opts, files) ← options name "b:d:f:h:i:l:n:ps:v:w:" true args
    [("body-numbering", 'b'), ("section-delimiter", 'd'), ("footer-numbering", 'f'),
     ("header-numbering", 'h'), ("line-increment", 'i'), ("join-blank-lines", 'l'),
     ("number-format", 'n'), ("no-renumber", 'p'), ("number-separator", 's'),
     ("starting-line-number", 'v'), ("number-width", 'w')]
  let mut plan : NumberPlan := {}
  for (c, v) in opts do
    let style (what : String) : Sh NumberStyle := do
      match NumberStyle.parse? v with
      | some s => pure s
      | Option.none =>
        say name ("invalid " ++ what ++ " numbering style: " ++ (← quoted v))
        exitWith 1
    let number (what : String) : Sh Int := do
      match (scanInteger 10 v.toList) with
      | (k, used) =>
        if used == v.length && used > 0 then pure k
        else
          say name ("invalid " ++ what ++ ": " ++ (← quoted v))
          exitWith 1
    match c with
    | 'b' => plan := { plan with body := ← style "body" }
    | 'h' => plan := { plan with header := ← style "header" }
    | 'f' => plan := { plan with footer := ← style "footer" }
    | 'v' => plan := { plan with start := ← number "starting line number" }
    | 'i' => plan := { plan with step := ← number "line number increment" }
    | 'l' => plan := { plan with join := (← number "line number of blank lines").toNat }
    | 'w' =>
      let w ← number "line number field width"
      if w ≤ 0 then
        say name ("invalid line number field width: " ++ (← quoted v) ++
          ": Numerical result out of range")
        exitWith 1
      plan := { plan with width := w.toNat }
    | 'n' =>
      if v == "ln" || v == "rn" || v == "rz" then plan := { plan with format := v }
      else
        say name ("invalid line numbering format: " ++ (← quoted v))
        exitWith 1
    | 's' => plan := { plan with separator := v }
    | 'p' => plan := { plan with restart := false }
    | 'd' =>
      let d := match v.toList with
        | [c1] => String.ofList [c1, ':']
        | _ => v
      plan := { plan with delimiter := d }
    | _ => pure ()
  let (inputs, ok) ← readInputs name files
  let text := String.join (inputs.map fun (_, bs) => Text.ofBytes bs)
  let lines := if text.isEmpty then [] else
    let pieces := text.splitOn "\n"
    if text.endsWith "\n" then pieces.dropLast else pieces
  out (numberLines plan lines)
  exitWith (if ok then 0 else 1)

/-! ## `paste` -/

/-- Read a delimiter list: `\n`, `\t`, `\\`, `\b`, `\f`, `\r`, `\v` stand for those characters,
`\0` for no delimiter at all (`none`), and a backslash before anything else for that character.
None when the list ends in a lone backslash. -/
def readDelimiters (s : String) : Option (List (Option Char)) :=
  let rec go : Nat → List Char → List (Option Char) → Option (List (Option Char))
    | 0, _, acc => some acc.reverse
    | _ + 1, [], acc => some acc.reverse
    | k + 1, '\\' :: rest, acc =>
      match rest with
      | [] => Option.none
      | c :: more =>
        let d : Option Char := match c with
          | '0' => Option.none
          | 'b' => some (Char.ofNat 8)
          | 'f' => some (Char.ofNat 12)
          | 'n' => some '\n'
          | 'r' => some '\r'
          | 't' => some '\t'
          | 'v' => some (Char.ofNat 11)
          | _ => some c
        go k more (d :: acc)
    | k + 1, c :: rest, acc => go k rest (some c :: acc)
  go (s.length + 1) s.toList []

/-- The `i`-th delimiter of a list used in turn, as text. -/
def delimiterAt (ds : List (Option Char)) (i : Nat) : String :=
  match ds with
  | [] => ""
  | _ => match ds.getD (i % ds.length) Option.none with
    | some c => String.singleton c
    | Option.none => ""

/-- Where each operand of `paste` takes its lines: its own list, or standard input, which the
operands `-` share. -/
inductive LineSource where
  | own (lines : List String)
  | shared

/-- Join the lines of several inputs side by side. Each round takes the next line of each input
that is still open; an input that has run out is closed, and the delimiters after it are held
back until a later input gives a line. A round in which the last open input closes writes
nothing. -/
def pasteParallel (ds : List (Option Char)) (sources : List LineSource) (stdin : List String) :
    String :=
  let n := sources.length
  let rounds := (sources.foldl (fun m s => match s with
    | .own ls => max m ls.length
    | .shared => m) 0) + stdin.length + 2
  let rec go : Nat → List LineSource → List String → List Bool → String → String
    | 0, _, _, _, acc => acc
    | fuel + 1, srcs, shared, open_, acc =>
      if !open_.any id then acc
      else
        -- One round: for each source in turn, its next line.
        let init : List LineSource × List String × List Bool × String × String × Nat × Bool :=
          ([], shared, [], "", "", 0, false)
        let (srcs2, shared2, open2, line, _, _, _) :=
          ((srcs.zip open_).zip (List.range n)).foldl (fun st ((src, isOpen), i) =>
            let (doneSrcs, sh, doneOpen, line, held, di, stopped) := st
            if stopped then (doneSrcs ++ [src], sh, doneOpen ++ [isOpen], line, held, di, true)
            else
              let (got, src', sh') : Option String × LineSource × List String :=
                if !isOpen then (Option.none, src, sh)
                else match src with
                  | .own (l :: rest) => (some l, .own rest, sh)
                  | .own [] => (Option.none, .own [], sh)
                  | .shared => match sh with
                    | l :: rest => (some l, .shared, rest)
                    | [] => (Option.none, .shared, [])
              let last := i + 1 == n
              match got with
              | some l =>
                let line := line ++ held ++ l
                if last then (doneSrcs ++ [src'], sh', doneOpen ++ [true], line ++ "\n", "", di, false)
                else (doneSrcs ++ [src'], sh', doneOpen ++ [true], line ++ delimiterAt ds di, "",
                  di + 1, false)
              | Option.none =>
                let stillOpen := (doneOpen ++ (open_.drop (i + 1))).any id
                if last then
                  if stillOpen then (doneSrcs ++ [src'], sh', doneOpen ++ [false], line ++ held ++ "\n", "", di, false)
                  else (doneSrcs ++ [src'], sh', doneOpen ++ [false], "", "", di, false)
                else if !stillOpen then
                  (doneSrcs ++ [src'], sh', doneOpen ++ [false], "", "", di, true)
                else (doneSrcs ++ [src'], sh', doneOpen ++ [false], line, held ++ delimiterAt ds di,
                  di + 1, false)) init
        go fuel srcs2 shared2 open2 (acc ++ line)
  go rounds sources stdin (sources.map fun _ => true) ""

/-- The lines of a byte string; a last line without a newline counts. -/
def textLines (s : String) : List String :=
  if s.isEmpty then [] else
    let pieces := s.splitOn "\n"
    if s.endsWith "\n" then pieces.dropLast else pieces

/-- The `paste` program. -/
def pasteProgram (name : String) (args : List String) : Sh Unit := do
  let (opts, files) ← options name "d:sz" true args
    [("delimiters", 'd'), ("serial", 's'), ("zero-terminated", 'z')]
  let list := (optArg opts 'd').getD "\t"
  let list := if list.isEmpty then "\\0" else list
  let ds ← match readDelimiters list with
    | some ds => pure ds
    | Option.none =>
      say name ("delimiter list ends with an unescaped backslash: " ++ (← quoted list))
      exitWith 1
  let files := if files.isEmpty then ["-"] else files
  if hasOpt opts 's' then
    let mut ok := true
    for f in files do
      match ← readOperand f with
      | .ok bs =>
        let ls := textLines (Text.ofBytes bs)
        let joined := (ls.zip (List.range ls.length)).foldl (fun acc (l, i) =>
          if i == 0 then l else acc ++ delimiterAt ds (i - 1) ++ l) ""
        out (joined ++ "\n")
      | .error e =>
        say name (f ++ ": " ++ e.description)
        ok := false
    exitWith (if ok then 0 else 1)
  let mut sources : List LineSource := []
  for f in files do
    if f == "-" then sources := sources ++ [.shared]
    else
      match ← readOperand f with
      | .ok bs => sources := sources ++ [.own (textLines (Text.ofBytes bs))]
      | .error e =>
        say name (f ++ ": " ++ e.description)
        exitWith 1
  let stdin ← if files.contains "-" then pure (textLines (Text.ofBytes (← readStdin))) else pure []
  out (pasteParallel ds sources stdin)
  exitWith 0

/-! ## `comm` -/

/-- The three columns of `comm` as steps: a line only in the first input, only in the second,
or in both. -/
inductive CommColumn where
  | first | second | both
  deriving BEq

/-- Walk two inputs as `comm` does: the lesser line first, equal lines together; the result is
each line with its column, and the input (1 or 2) first found out of order, if any, with the
place in the output where that was found. -/
def commWalk (fold : Bool) : Nat → List String → List String → Option String → Option String →
    List (CommColumn × String) → Bool → List Nat → List (CommColumn × String) × List (Nat × Nat)
  | 0, _, _, _, _, acc, _, _ => (acc.reverse, [])
  | fuel + 1, xs, ys, px, py, acc, unpaired, bad =>
    let key (s : String) : String := if fold then s.toUpper else s
    let lessThan (a b : String) : Bool := key a < key b
    -- The order check starts once a line has been found in one input only.
    let check (prev : Option String) (next : Option String) (which : Nat) (unp : Bool)
        (bad : List Nat) : List Nat :=
      match prev, next with
      | some p, some x => if unp && lessThan x p && !bad.contains which then bad ++ [which] else bad
      | _, _ => bad
    match xs, ys with
    | [], [] => (acc.reverse, (bad.map fun w => (w, acc.length)))
    | x :: xr, [] =>
      let bad := check (some x) xr.head? 1 true bad
      commWalk fold fuel xr [] (some x) py ((.first, x) :: acc) true bad
    | [], y :: yr =>
      let bad := check (some y) yr.head? 2 true bad
      commWalk fold fuel [] yr px (some y) ((.second, y) :: acc) true bad
    | x :: xr, y :: yr =>
      if lessThan x y then
        let bad := check (some x) xr.head? 1 true bad
        commWalk fold fuel xr ys (some x) py ((.first, x) :: acc) true bad
      else if lessThan y x then
        let bad := check (some y) yr.head? 2 true bad
        commWalk fold fuel xs yr px (some y) ((.second, y) :: acc) true bad
      else
        let bad := check (some x) xr.head? 1 unpaired bad
        let bad := check (some y) yr.head? 2 unpaired bad
        commWalk fold fuel xr yr (some x) (some y) ((.both, y) :: acc) unpaired bad

/-- The `comm` program. -/
def commProgram (name : String) (args : List String) : Sh Unit := do
  let checkOrder := Char.ofNat 1
  let noCheck := Char.ofNat 2
  let outDelim := Char.ofNat 3
  let total := Char.ofNat 4
  let (opts, files) ← options name ("123iz" ++ String.ofList [checkOrder, noCheck, outDelim, ':', total])
    true args
    [("check-order", checkOrder), ("nocheck-order", noCheck), ("output-delimiter", outDelim),
     ("total", total), ("zero-terminated", 'z')]
  match files with
  | [] => usageError name "missing operand"
  | [f] => usageError name ("missing operand after " ++ (← quoted f))
  | _ :: _ :: extra :: _ => usageError name ("extra operand " ++ (← quoted extra))
  | [f1, f2] =>
    let read (f : String) : Sh (List String) := do
      match ← readOperand f with
      | .ok bs => pure (textLines (Text.ofBytes bs))
      | .error e =>
        say name (f ++ ": " ++ e.description)
        exitWith 1
    let xs ← read f1
    let ys ← read f2
    let sep := (optArg opts outDelim).getD "\t"
    let sep := if sep.isEmpty then "\x00" else sep
    let show1 := !hasOpt opts '1'
    let show2 := !hasOpt opts '2'
    let show3 := !hasOpt opts '3'
    let (rows, bad) := commWalk (hasOpt opts 'i') (xs.length + ys.length + 1) xs ys
      Option.none Option.none [] false []
    let strict := hasOpt opts checkOrder
    let checking := !hasOpt opts noCheck
    let rowText (c : CommColumn) (l : String) : String :=
      match c with
      | .first => if show1 then l ++ "\n" else ""
      | .second => if show2 then (if show1 then sep else "") ++ l ++ "\n" else ""
      | .both =>
        if show3 then (if show1 then sep else "") ++ (if show2 then sep else "") ++ l ++ "\n"
        else ""
    let mut written := 0
    for (w, place) in (if checking then bad else []) do
      out (String.join ((rows.drop written).take (place - written) |>.map fun (c, l) => rowText c l))
      written := place
      say name ("file " ++ toString w ++ " is not in sorted order")
      if strict then exitWith 1
    out (String.join ((rows.drop written).map fun (c, l) => rowText c l))
    if hasOpt opts total then
      let count (c : CommColumn) : Nat := rows.countP (·.1 == c)
      out (toString (count .first) ++ sep ++ toString (count .second) ++ sep ++
        toString (count .both) ++ sep ++ "total\n")
    if checking && !bad.isEmpty then
      say name "input is not in sorted order"
      exitWith 1
    exitWith 0

/-! ## Tab stops: `expand` and `unexpand` -/

/-- Tab stops: a list of columns, then either every `size` columns (`extend`, `/N`), or every
`size` columns after the last stop (`increment`, `+N`). A single stop with neither is a tab
size. -/
structure TabStops where
  stops : List Nat := []
  extend : Nat := 0
  increment : Nat := 0

/-- Read a tab stop list: numbers separated by commas or blanks, the last possibly marked `/`
or `+`. The error is the message. -/
def TabStops.parse (s : String) : Except String TabStops := do
  let pieces := (s.toList.splitBy fun a _ => !(a == ',' || a == ' ' || a == '\t')).map
    fun p => p.filter fun c => !(c == ',' || c == ' ' || c == '\t')
  let pieces := pieces.filter (!·.isEmpty)
  let mut t : TabStops := {}
  for p in pieces do
    let (mark, digits) := match p with
      | '/' :: r => ('/', r)
      | '+' :: r => ('+', r)
      | _ => (' ', p)
    if digits.isEmpty || !digits.all Char.isDigit then
      match digits.find? (fun c => !c.isDigit) with
      | some c =>
        if c == '/' || c == '+' then
          throw ("'" ++ String.singleton c ++ "' specifier not at start of number: '" ++
            String.ofList (digits.dropWhile Char.isDigit) ++ "'")
        else throw ("tab size contains invalid character(s): '" ++
          String.ofList (digits.dropWhile Char.isDigit) ++ "'")
      | Option.none => pure ()
    let v := digitsValue 10 digits
    match mark with
    | '/' => t := { t with extend := v }
    | '+' => t := { t with increment := v }
    | _ => t := { t with stops := t.stops ++ [v] }
  let mut prev := 0
  for v in t.stops do
    if v == 0 then throw "tab size cannot be 0"
    if v ≤ prev then throw "tab sizes must be ascending"
    prev := v
  if t.extend > 0 && t.increment > 0 then throw "'/' specifier is mutually exclusive with '+'"
  return t

/-- The column of the next tab stop after `column`, or none past the last one. -/
def TabStops.next (t : TabStops) (column : Nat) : Option Nat :=
  match t.stops, t.extend, t.increment with
  | [], 0, 0 => some (column + (8 - column % 8))
  | [], e, 0 => some (column + (e - column % e))
  | [], _, i => some (column + (i - column % i))
  | [s], 0, 0 => some (column + (s - column % s))
  | stops, e, i =>
    match stops.find? (column < ·) with
    | some s => some s
    | Option.none =>
      if e > 0 then some (column + (e - column % e))
      else if i > 0 then
        let last := stops.getLastD 0
        some (column + (i - (column - last) % i))
      else Option.none

/-- Turn tabs into spaces, up to the next stop (one space past the last stop); with `initial`,
only in the blanks that start a line. A backspace goes back a column. -/
def expandText (t : TabStops) (initial : Bool) (cs : List Char) : String :=
  let step (st : String × Nat × Bool) (c : Char) : String × Nat × Bool :=
    let (acc, column, convert) := st
    if c == '\n' then (acc.push c, 0, true)
    else if convert && c == '\t' then
      let stop := (t.next column).getD (column + 1)
      (acc ++ fill (stop - column) ' ', stop, convert)
    else
      let column := if c == Char.ofNat 8 then column - 1 else column + 1
      let convert := convert && (!initial || c == ' ' || c == '\t')
      (acc.push c, column, convert)
  (cs.foldl step ("", 0, true)).1

/-- The state of `unexpand` within a line. -/
structure UnexpandState where
  out : String := ""
  column : Nat := 0
  convert : Bool := true
  pending : List Char := []
  oneBeforeStop : Bool := false
  prevBlank : Bool := true

/-- Write the blanks held back, a tab first when they reach past a stop. -/
def UnexpandState.flush (st : UnexpandState) : UnexpandState :=
  if st.pending.isEmpty then st
  else
    let pend := if st.pending.length > 1 && st.oneBeforeStop then '\t' :: st.pending.drop 1
      else st.pending
    { st with out := st.out ++ String.ofList pend, pending := [], oneBeforeStop := false }

/-- One character (none at the end of the input) through `unexpand`. A space short of a stop
is held back until it is known what it becomes; a space reaching a stop after another blank,
or a tab, turns the held blanks into one tab, except that a single space that reached the stop
before stays a space. Past the last stop nothing more is turned. -/
def unexpandStep (t : TabStops) (all : Bool) (st : UnexpandState) (c : Option Char) :
    UnexpandState :=
  let put (st : UnexpandState) (c : Option Char) : UnexpandState :=
    match c with
    | some '\n' => { out := st.out.push '\n' }
    | some ch => { st with out := st.out.push ch }
    | Option.none => st
  if !st.convert then put st c
  else
    let blank := c == some ' ' || c == some '\t'
    let firstToTab (pend : List Char) : List Char := match pend with
      | [] => []
      | _ :: rest => '\t' :: rest
    -- Either the character is held back, or the state before writing it and what to write.
    let next : Sum UnexpandState (UnexpandState × Option Char) :=
      if blank then
        match t.next st.column with
        | Option.none => .inr ({ st with convert := false }, c)
        | some stop =>
          if c == some '\t' then
            let pend := firstToTab st.pending
            .inr ({ st with column := stop,
                            pending := if st.oneBeforeStop then pend.take 1 else [] }, c)
          else
            let column := st.column + 1
            if !(st.prevBlank && column == stop) then
              .inl { st with column, pending := st.pending ++ [' '], prevBlank := true,
                             oneBeforeStop := st.oneBeforeStop || column == stop }
            else
              let pend := firstToTab st.pending
              .inr ({ st with column, pending := if st.oneBeforeStop then pend.take 1 else [] },
                some '\t')
      else if c == some (Char.ofNat 8) then .inr ({ st with column := st.column - 1 }, c)
      else .inr ({ st with column := st.column + 1 }, c)
    match next with
    | .inl st => st
    | .inr (st, out) =>
      let st := st.flush
      put { st with prevBlank := blank, convert := st.convert && (all || blank) } out

/-- Turn runs of blanks that reach a tab stop into tabs: in the blanks that start a line, or,
with `all`, in every run. -/
def unexpandText (t : TabStops) (all : Bool) (cs : List Char) : String :=
  (unexpandStep t all (cs.foldl (fun st c => unexpandStep t all st (some c)) {}) Option.none).out

/-- Read the tab options of `expand` or `unexpand`: `-t list`, and the older `-N`. -/
def tabOptions (name : String) (args : List String) (spec : String) :
    Sh (List (Char × String) × List String × TabStops) := do
  let args := args.map fun a =>
    if a.length > 1 && a.startsWith "-" && (a.drop 1).all Char.isDigit then "--tabs=" ++ (a.drop 1).toString
    else a
  let (opts, files) ← options name spec true args
    [("initial", 'i'), ("tabs", 't'), ("all", 'a'), ("first-only", Char.ofNat 1)]
  let lists := opts.filterMap fun (c, v) => if c == 't' then some v else Option.none
  match TabStops.parse (",".intercalate lists) with
  | .ok t => return (opts, files, t)
  | .error msg =>
    say name msg
    exitWith 1

/-- The `expand` program. -/
def expandProgram (name : String) (args : List String) : Sh Unit := do
  let (opts, files, t) ← tabOptions name args "it:"
  let (inputs, ok) ← readInputs name files
  let text := String.join (inputs.map fun (_, bs) => Text.ofBytes bs)
  out (expandText t (hasOpt opts 'i') text.toList)
  exitWith (if ok then 0 else 1)

/-- The `unexpand` program. -/
def unexpandProgram (name : String) (args : List String) : Sh Unit := do
  let (opts, files, t) ← tabOptions name args ("at:" ++ String.singleton (Char.ofNat 1))
  let all := (hasOpt opts 'a' || hasOpt opts 't') && !hasOpt opts (Char.ofNat 1)
  let (inputs, ok) ← readInputs name files
  let text := String.join (inputs.map fun (_, bs) => Text.ofBytes bs)
  out (unexpandText t all text.toList)
  exitWith (if ok then 0 else 1)

/-! ## `fold` -/

/-- The column after a character: a backspace goes back, a carriage return to the start, a tab
to the next multiple of 8; with `bytes` every byte is one column. -/
def foldColumn (bytes : Bool) (column : Nat) (c : Char) : Nat :=
  if bytes then column + 1
  else if c == Char.ofNat 8 then column - 1
  else if c == '\r' then 0
  else if c == '\t' then column + (8 - column % 8)
  else column + 1

/-- The line being built by `fold`, and the text done. -/
structure FoldState where
  out : String := ""
  line : List Char := []
  column : Nat := 0

/-- Place one character on the line, breaking it first when the character would pass the
width: after the last blank with `spaces`, else right there. -/
def foldPlace (width : Nat) (bytes spaces : Bool) : Nat → FoldState → Char → FoldState
  | 0, st, c => { st with line := st.line ++ [c] }
  | fuel + 1, st, c =>
    let column := foldColumn bytes st.column c
    if column > width then
      let lastBlank := if spaces then
          (st.line.zip (List.range st.line.length)).foldl (fun acc (d, i) =>
            if d == ' ' || d == '\t' then some i else acc) Option.none
        else Option.none
      match lastBlank with
      | some i =>
        let rest := st.line.drop (i + 1)
        let st := { out := st.out ++ String.ofList (st.line.take (i + 1)) ++ "\n", line := rest,
                    column := rest.foldl (foldColumn bytes) 0 }
        foldPlace width bytes spaces fuel st c
      | Option.none =>
        if st.line.isEmpty then { st with line := [c], column }
        else foldPlace width bytes spaces fuel { out := st.out ++ String.ofList st.line ++ "\n" } c
    else { st with line := st.line ++ [c], column }

/-- Break the lines of a text at a width. -/
def foldText (width : Nat) (bytes spaces : Bool) (cs : List Char) : String :=
  let st := cs.foldl (fun st c =>
    if c == '\n' then { out := st.out ++ String.ofList st.line ++ "\n" }
    else foldPlace width bytes spaces (st.line.length + 2) st c) ({} : FoldState)
  st.out ++ String.ofList st.line

/-- The `fold` program. -/
def foldProgram (name : String) (args : List String) : Sh Unit := do
  let args := args.map fun a =>
    if a.length > 1 && a.startsWith "-" && (a.drop 1).all Char.isDigit then "--width=" ++ (a.drop 1).toString
    else a
  let (opts, files) ← options name "bsw:" true args
    [("bytes", 'b'), ("spaces", 's'), ("width", 'w')]
  let width ← match optArg opts 'w' with
    | some v =>
      let (k, used) := scanInteger 10 v.toList
      if used == v.length && used > 0 && k > 0 then pure k.toNat
      else
        say name ("invalid number of columns: " ++ (← quoted v))
        exitWith 1
    | Option.none => pure 80
  let (inputs, ok) ← readInputs name files
  for (_, bs) in inputs do
    out (foldText width (hasOpt opts 'b') (hasOpt opts 's') (Text.ofBytes bs).toList)
  exitWith (if ok then 0 else 1)

end Fanout.Programs
