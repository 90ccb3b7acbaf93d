import Fanout.Programs.Basic
import Fanout.Text.Regex
import Fanout.Text.Utf8

/-!
# `grep`: the lines that match patterns

`grep` reads each input line by line and selects the lines that match one of its patterns
(basic expressions by default, extended with `-E`, fixed strings with `-F`), or with `-v` those
that match none. It prints the selected lines, with context lines around them on request, or
only the parts that match (`-o`), or only how many lines were selected (`-c`), or only which
inputs had a selected line (`-l`, `-L`).

A match can be held to whole words (`-w`) or whole lines (`-x`). An input that holds a zero
byte (or, in a UTF-8 locale, bytes that are no character) is binary: its lines are not printed,
and a note says that it matched. The status is 0 when a line was selected, 1 when none was,
and 2 on an error, unless `-q` found a line.
-/

namespace Fanout.Programs

open Fanout.Posix Fanout.Host Fanout.Text

/-- How the patterns are read. -/
inductive PatternSyntax where
  | basic
  | extended
  | fixed
  deriving BEq

/-- The patterns of a run and how a match must sit in its line. -/
structure LineMatcher where
  patterns : List Regex
  words : Bool := false
  whole : Bool := false

/-- A fixed string as an expression that matches it and nothing else. -/
def fixedRx (s : String) : Rx := .cat (s.toList.map .lit)

/-- Compile the patterns, or the message of the first that is malformed. -/
def LineMatcher.compile (syn : PatternSyntax) (icase words whole : Bool) (ps : List String) :
    Except String LineMatcher := do
  let patterns ← ps.mapM fun p =>
    match syn with
    | .fixed => pure { rx := fixedRx p, groups := 0, icase }
    | .basic => Regex.parse false p icase
    | .extended => Regex.parse true p icase
  pure { patterns, words, whole }

/-- The match in `s` at or after `start` that the matcher accepts: the leftmost, and of those
the longest. With `words` a match must not have a word character just before or after it;
with `whole` it must be all of `s`. -/
def LineMatcher.find (m : LineMatcher) (s : Array Char) (start : Nat) : Option (Nat × Nat) :=
  let n := s.size
  let accepts (i j : Nat) : Bool :=
    if m.whole then i == 0 && j == n
    else if m.words then
      !((if i == 0 then none else s[i - 1]?).any isWordChar) && !(s[j]?.any isWordChar)
    else true
  let rec go : Nat → Nat → Option (Nat × Nat)
    | 0, _ => none
    | k + 1, i =>
      if i > n then none
      else
        let ends := m.patterns.flatMap fun re =>
          (stepRx re.icase s (n + 64) re.rx i []).filterMap fun (j, _) =>
            if accepts i j then some j else none
        match ends.max? with
        | some j => some (i, j)
        | none => if m.whole then none else go k (i + 1)
  go (n + 2) start

/-- Whether the matcher accepts some part of the line. -/
def LineMatcher.matches (m : LineMatcher) (line : String) : Bool :=
  (m.find line.toList.toArray 0).isSome

/-- The parts of a line the matcher accepts, left to right, empty ones left out: where each
starts and the text. -/
def LineMatcher.parts (m : LineMatcher) (line : String) : List (Nat × String) :=
  let s := line.toList.toArray
  let rec go : Nat → Nat → List (Nat × String)
    | 0, _ => []
    | k + 1, p =>
      match m.find s p with
      | some (i, j) =>
        if j == i then go k (i + 1)
        else (i, String.ofList ((s.extract i j).toList)) :: go k j
      | none => []
  go (s.size + 1) 0

/-- What a run of `grep` prints and how. -/
structure GrepStyle where
  invert : Bool := false
  count : Bool := false
  onlyMatching : Bool := false
  quiet : Bool := false
  listMatching : Bool := false
  listMissing : Bool := false
  numbers : Bool := false
  offsets : Bool := false
  withNames : Bool := false
  nullAfterName : Bool := false
  nullData : Bool := false
  text : Bool := false
  maxCount : Option Nat := none
  before : Nat := 0
  after : Nat := 0
  suppress : Bool := false
  recursive : Bool := false
  label : String := "(standard input)"

/-- What searching one input found: its output, how many lines were selected, and whether a
binary input had a selected line. -/
structure GrepResult where
  output : String := ""
  selected : Nat := 0
  binaryMatch : Bool := false

/-- The state of a search through the lines of one input. -/
structure GrepScan where
  result : GrepResult := {}
  /-- The last line printed. -/
  last : Option Nat := none
  /-- The context lines still owed after a selected line. -/
  owed : Nat := 0
  /-- Whether a group of lines was printed, here or in an input before. -/
  printed : Bool
  stopped : Bool := false

/-- Search the lines of one input (`name` as shown): the output of the lines, with numbers,
offsets and context as the style asks. `separated` tells whether a group of lines was printed
before, so that a new group needs the `--` line. In a binary input (`binary`) no line is
printed and the search ends at the first selected line; a line that `undecodable` rejects ends
the search in the same way when it is to be printed. -/
def searchLines (st : GrepStyle) (m : LineMatcher) (name : String) (lines : List String)
    (binary : Bool) (undecodable : String → Bool) (separated : Bool) : GrepResult × Bool :=
  let ending := if st.nullData then "\x00" else "\n"
  let context := st.before > 0 || st.after > 0
  let prefixOf (sep : Char) (num : Nat) (offset : Nat) : String :=
    (if st.withNames then name ++ (if st.nullAfterName then "\x00" else String.singleton sep) else "") ++
    (if st.numbers then toString (num + 1) ++ String.singleton sep else "") ++
    (if st.offsets then toString offset ++ String.singleton sep else "")
  let listing := st.quiet || st.count || st.listMatching || st.listMissing
  -- The byte offset of each line's start.
  let offsets := (lines.foldl (fun (acc : List Nat × Nat) l => (acc.1 ++ [acc.2], acc.2 + l.length + 1))
    ([], 0)).1
  let arr := lines.toArray
  let offArr := offsets.toArray
  let binaryEnd (sc : GrepScan) : GrepScan :=
    { sc with result := { sc.result with binaryMatch := true }, stopped := true }
  let step (sc : GrepScan) (idx : Nat) : GrepScan :=
    if sc.stopped then sc
    else
      let line := arr.getD idx ""
      let full := st.maxCount.any (sc.result.selected ≥ ·)
      let selected := !full && (m.matches line != st.invert)
      if selected then
        let sc := { sc with result := { sc.result with selected := sc.result.selected + 1 } }
        if listing then
          { sc with stopped := st.quiet || st.listMatching || st.listMissing }
        else if binary then binaryEnd sc
        else
          let first := match sc.last with
            | some l => max (l + 1) (idx - st.before)
            | none => idx - st.before
          let gap := match sc.last with
            | some l => first > l + 1
            | none => true
          let shownLines := (List.range (idx + 1 - first)).map (first + ·)
          if shownLines.any fun k => undecodable (arr.getD k "") then binaryEnd sc
          else
            let sepLine := if context && sc.printed && gap then "--\n" else ""
            let beforeText := String.join ((List.range (idx - first)).map fun t =>
              let k := first + t
              prefixOf '-' k (offArr.getD k 0) ++ arr.getD k "" ++ ending)
            let body := if st.onlyMatching then
                if st.invert then ""
                else String.join ((m.parts line).map fun (i, text) =>
                  prefixOf ':' idx (offArr.getD idx 0 + i) ++ text ++ ending)
              else prefixOf ':' idx (offArr.getD idx 0) ++ line ++ ending
            let text := sepLine ++ (if st.onlyMatching then "" else beforeText) ++ body
            { sc with result := { sc.result with output := sc.result.output ++ text },
                      last := some idx, owed := st.after, printed := true }
      else if sc.owed > 0 && !listing && !binary then
        if undecodable line then binaryEnd sc
        else
          let text := if st.onlyMatching then ""
            else prefixOf '-' idx (offArr.getD idx 0) ++ line ++ ending
          { sc with result := { sc.result with output := sc.result.output ++ text },
                    last := some idx, owed := sc.owed - 1 }
      else if full then { sc with stopped := true }
      else sc
  let sc := (List.range arr.size).foldl step { printed := separated }
  (sc.result, sc.printed)

/-- Whether a line's bytes are no text in a UTF-8 locale. -/
def undecodableLine (utf8 : Bool) (line : String) : Bool :=
  utf8 && (decodeLossy (Text.toBytes line)).toUTF8.toList != Text.toBytes line

/-- Split input into lines at `sep`; a last line without `sep` counts too. -/
def splitInput (sep : Char) (text : String) : List String :=
  let pieces := text.splitOn (String.singleton sep)
  match pieces.getLast? with
  | some "" => pieces.dropLast
  | _ => pieces

/-- The files below a directory, walked in order of name: each path as `grep -r` names it. -/
def filesBelow (fs : Fs) : Nat → String → String → List String
  | 0, _, _ => []
  | k + 1, dir, shown =>
    let kids := ((fs.children dir).map (·.1)).mergeSort (fun a b => decide (a < b) || a == b)
    kids.flatMap fun name =>
      let path := joinPath dir name
      let shownPath := if shown.isEmpty then name else joinPath shown name
      match fs.node? path with
      | some (.dir _) => filesBelow fs k path shownPath
      | some (.link _) => []
      | some _ => [shownPath]
      | none => []

/-- The `grep` program. -/
def grepProgram (name : String) (args : List String) : Sh Unit := do
  let labelL := Char.ofNat 1
  let colorL := Char.ofNat 2
  let includeL := Char.ofNat 3
  let excludeL := Char.ofNat 4
  let noIgnoreL := Char.ofNat 5
  let lineBufferedL := Char.ofNat 6
  let groupSepL := Char.ofNat 7
  let noGroupSepL := Char.ofNat 8
  let binaryFilesL := Char.ofNat 9
  let longs : List (String × Char) :=
    [("extended-regexp", 'E'), ("fixed-strings", 'F'), ("basic-regexp", 'G'), ("perl-regexp", 'P'),
     ("regexp", 'e'), ("file", 'f'), ("ignore-case", 'i'), ("no-ignore-case", noIgnoreL),
     ("word-regexp", 'w'), ("line-regexp", 'x'), ("null-data", 'z'), ("no-messages", 's'),
     ("invert-match", 'v'), ("version", 'V'), ("help", Char.ofNat 10), ("max-count", 'm'),
     ("byte-offset", 'b'), ("line-number", 'n'), ("with-filename", 'H'), ("no-filename", 'h'),
     ("label", labelL), ("only-matching", 'o'), ("quiet", 'q'), ("silent", 'q'),
     ("binary-files", binaryFilesL), ("text", 'a'), ("directories", 'd'), ("devices", 'D'),
     ("recursive", 'r'), ("dereference-recursive", 'R'), ("include", includeL),
     ("exclude", excludeL), ("files-without-match", 'L'), ("files-with-matches", 'l'),
     ("count", 'c'), ("initial-tab", 'T'), ("null", 'Z'), ("before-context", 'B'),
     ("after-context", 'A'), ("context", 'C'), ("color", colorL), ("colour", colorL),
     ("line-buffered", lineBufferedL), ("group-separator", groupSepL),
     ("no-group-separator", noGroupSepL)]
  let spec := "0123456789A:B:C:D:EFGHIJLPRTUVZabcd:e:f:hilm:noqrsuvwxyz" ++
    String.ofList [labelL, ':', colorL, ':', ':', includeL, ':', excludeL, ':', noIgnoreL,
      lineBufferedL, groupSepL, ':', noGroupSepL, binaryFilesL, ':']
  let (opts, rest) ← tryCatch (options name spec true args longs) fun _ => exitWith 2
  -- Digits given as options (`-2`) set the context on both sides.
  let digitContext := String.ofList ((opts.filter fun (c, _) => c.isDigit).map (·.1))
  let number (c : Char) (what : String) : Sh (Option Nat) := do
    match optArg opts c with
    | some v =>
      match v.toNat? with
      | some k => pure (some k)
      | none =>
        say name ("invalid " ++ what ++ " argument")
        exitWith 2
    | none => pure none
  let contextBoth ← number 'C' "context length"
  let contextBoth := if digitContext.isEmpty then contextBoth else digitContext.toNat?
  let before := (← number 'B' "context length").orElse fun _ => contextBoth
  let after := (← number 'A' "context length").orElse fun _ => contextBoth
  let maxCount ← match optArg opts 'm' with
    | some v =>
      match v.toInt? with
      | some k => pure (if k < 0 then none else some k.toNat)
      | none =>
        say name ("invalid max count")
        exitWith 2
    | none => pure none
  -- The patterns: from `-e` and `-f`, or else the first operand.
  let mut patterns : List String := []
  let mut given := false
  for (c, v) in opts do
    if c == 'e' then
      patterns := patterns ++ v.splitOn "\n"
      given := true
    else if c == 'f' then
      match ← readOperand v with
      | .ok bs =>
        patterns := patterns ++ splitInput '\n' (Text.ofBytes bs)
        given := true
      | .error e =>
        say name (v ++ ": " ++ e.description)
        exitWith 2
  let (chosen, files) ← if given then pure (patterns, rest)
    else match rest with
      | p :: fs => pure (p.splitOn "\n", fs)
      | [] =>
        err ("Usage: " ++ name ++ " [OPTION]... PATTERNS [FILE]...\n")
        tryHelp name
        exitWith 2
  let syn := (opts.filter fun (c, _) => c == 'E' || c == 'F' || c == 'G' || c == 'P').getLast?.map (·.1)
  let syn : PatternSyntax := match syn with
    | some 'E' | some 'P' => .extended
    | some 'F' => .fixed
    | _ => .basic
  let icase := (opts.filter fun (c, _) => c == 'i' || c == 'y' || c == noIgnoreL).getLast?.any
    fun (c, _) => c != noIgnoreL
  let matcher ← match LineMatcher.compile syn icase (hasOpt opts 'w') (hasOpt opts 'x') chosen with
    | .ok m => pure m
    | .error msg =>
      say name msg
      exitWith 2
  let recursive := hasOpt opts 'r' || hasOpt opts 'R'
  let files := if files.isEmpty then (if recursive then ["."] else ["-"]) else files
  let implicitDot := recursive && rest.length == (if given then 0 else 1)
  let names := (opts.filter fun (c, _) => c == 'H' || c == 'h').getLast?.map (·.1)
  let withNames := match names with
    | some 'H' => true
    | some _ => false
    | none => files.length > 1 || recursive
  let st : GrepStyle :=
    { invert := hasOpt opts 'v', count := hasOpt opts 'c', onlyMatching := hasOpt opts 'o',
      quiet := hasOpt opts 'q', listMatching := hasOpt opts 'l', listMissing := hasOpt opts 'L',
      numbers := hasOpt opts 'n', offsets := hasOpt opts 'b', withNames,
      nullAfterName := hasOpt opts 'Z', nullData := hasOpt opts 'z',
      text := hasOpt opts 'a' || optArg opts binaryFilesL == some "text",
      maxCount, before := before.getD 0, after := after.getD 0, suppress := hasOpt opts 's',
      recursive, label := (optArg opts labelL).getD "(standard input)" }
  let utf8 := utf8Locale (← getShell)
  let mut anySelected := false
  let mut trouble := false
  let mut separated := false
  let sep := if st.nullData then Char.ofNat 0 else '\n'
  -- Under `-r` a directory stands for the files below it.
  let mut inputs : List String := []
  for f in files do
    let w ← get
    if recursive && f != "-" && w.p.fs.isDir w.sh.cwd f then
      match w.p.fs.resolve w.sh.cwd f with
      | .ok q => inputs := inputs ++ filesBelow w.p.fs 64 q (if implicitDot then "" else f)
      | .error _ => inputs := inputs ++ [f]
    else inputs := inputs ++ [f]
  for f in inputs do
    let shown := if f == "-" then st.label else f
    match ← readOperand f with
    | .error e =>
      if !st.suppress then say name (f ++ ": " ++ e.description)
      trouble := true
    | .ok bs =>
      let binary := !st.text && !st.nullData && bs.contains 0
      let lines := splitInput sep (Text.ofBytes bs)
      let (r, printed) := searchLines st matcher shown lines binary
        (fun l => !st.text && undecodableLine utf8 l) separated
      separated := printed
      if r.selected > 0 then anySelected := true
      if st.quiet && r.selected > 0 then exitWith 0
      if st.count then
        out ((if st.withNames then shown ++ (if st.nullAfterName then "\x00" else ":") else "") ++
          toString r.selected ++ "\n")
      if st.listMatching && r.selected > 0 then
        out (shown ++ (if st.nullAfterName then "\x00" else "\n"))
      else if st.listMissing && r.selected == 0 then
        out (shown ++ (if st.nullAfterName then "\x00" else "\n"))
      else
        out r.output
      if r.binaryMatch then say name (shown ++ ": binary file matches")
  exitWith (if trouble && !(st.quiet && anySelected) then 2 else if anySelected then 0 else 1)

end Fanout.Programs
