import Fanout.Programs.Basic
import Fanout.Posix.Numeric

/-!
# Programs that read lines: `head`, `tail`, `wc`, `cut`, `sort`, `uniq` and `rev`

Each reads its operands (standard input when there are none) as bytes. A line is the bytes up
to a newline; the last line may lack one, and keeps lacking it in the output.

`head` and `tail` take a count of lines (`-n`) or bytes (`-c`), with a multiplier suffix
(`b`, `K`, `M`, …); `head -n -k` leaves out the last `k`, `tail -n +k` starts at the `k`-th.
`wc` counts lines, words, bytes and (in a UTF-8 locale) characters, in columns as wide as the
largest possible count. `cut` selects bytes or fields; `sort` orders lines by bytes or by
number, on the whole line or on fields; `uniq` merges runs of equal lines.
-/

namespace Fanout.Programs

open Fanout.Posix

/-- The lines of a byte string, and whether the last one ends with a newline. -/
def splitLines (s : String) : List String × Bool :=
  if s.isEmpty then ([], true)
  else
    let pieces := s.splitOn "\n"
    if s.endsWith "\n" then (pieces.dropLast, true) else (pieces, false)

/-- Join lines, each with its newline except, when `lastOpen`, the last. -/
def joinLines (ls : List String) (lastOpen : Bool) : String :=
  match ls.reverse with
  | [] => ""
  | last :: before =>
    String.join (before.reverse.map (· ++ "\n")) ++ last ++ (if lastOpen then "" else "\n")

/-! ## Counts with suffixes -/

/-- The multiplier of a count's suffix, as `head` and `tail` read it: `b` for 512, or a letter
of `kKmMGTPEZYRQ` for a power of 1024 (kilo to quetta), followed by nothing or `iB` for the
power of 1024, or `B` or `D` for the power of 1000. -/
def countSuffix (s : String) : Option Nat :=
  let power (c : Char) : Option Nat :=
    match c with
    | 'k' | 'K' => some 1
    | 'm' | 'M' => some 2
    | 'G' => some 3
    | 'T' => some 4
    | 'P' => some 5
    | 'E' => some 6
    | 'Z' => some 7
    | 'Y' => some 8
    | 'R' => some 9
    | 'Q' => some 10
    | _ => none
  let base (rest : List Char) : Option Nat :=
    match rest with
    | [] | ['i', 'B'] => some 1024
    | ['B'] | ['D'] => some 1000
    | _ => none
  match s.toList with
  | [] => some 1
  | 'b' :: rest => (base rest).map fun _ => 512
  | c :: rest =>
    match power c, base rest with
    | some k, some b => some (Nat.pow b k)
    | _, _ => none

/-- A count: digits and a suffix; none when it is not one. -/
def readCount (s : String) : Option Nat :=
  let ds := s.toList.takeWhile Char.isDigit
  if ds.isEmpty then none
  else (countSuffix (String.ofList (s.toList.drop ds.length))).map (digitsValue 10 ds * ·)

/-! ## `head` and `tail` -/

/-- What to take from each input: lines or bytes, how many, and whether from the other end
(`head -n -k`: all but the last `k`; `tail -n +k`: from the `k`-th on). -/
structure Span where
  bytes : Bool := false
  count : Nat := 10
  fromOther : Bool := false

/-- Turn an old-style option (`-5`, `+3`, `-5c`) into the new form. -/
def oldStyleCount (a : String) : Option (Char × String) :=
  match a.toList with
  | s :: rest =>
    let ds := rest.takeWhile Char.isDigit
    let tail := rest.drop ds.length
    if (s == '-' || s == '+') && !ds.isEmpty && (tail.isEmpty || tail == ['c'] || tail == ['l']) then
      some ((if tail == ['c'] then 'c' else 'n'), (if s == '+' then "+" else "") ++ String.ofList ds)
    else none
  | [] => none

/-- Read the count of `head` or `tail`: a sign and a count; the message when it is bad. -/
def readSpan (bytes : Bool) (v : String) : Except String Span :=
  let (fromOther, body) := match v.toList with
    | '-' :: r => (true, String.ofList r)
    | '+' :: r => (true, String.ofList r)
    | _ => (false, v)
  match readCount body with
  | some k => .ok { bytes, count := k, fromOther }
  | none => .error ("invalid number of " ++ (if bytes then "bytes" else "lines"))

/-- Split the arguments of `head` and `tail` into their spans, other options and files. -/
def spanOptions (name : String) (args : List String) : Sh (Option (Char × String) × List (Char × String) × List String) := do
  let (old, args) := match args with
    | a :: rest =>
      match oldStyleCount a with
      | some o => (some o, rest)
      | none => (none, args)
    | [] => (none, [])
  let (opts, files) ← options name "c:n:qvzf" true args
    [("bytes", 'c'), ("lines", 'n'), ("quiet", 'q'), ("silent", 'q'), ("verbose", 'v'),
     ("zero-terminated", 'z'), ("follow", 'f')]
  let last := (opts.filter fun (c, _) => c == 'c' || c == 'n').getLast?
  return ((last.orElse fun _ => old), opts, files)

/-- The part of one input that `head` writes. -/
def headOf (sp : Span) (s : String) : String :=
  if sp.bytes then
    if sp.fromOther then (s.take (s.length - sp.count)).toString else (s.take sp.count).toString
  else
    let (ls, closed) := splitLines s
    if sp.fromOther then
      let keep := ls.length - sp.count
      joinLines (ls.take keep) (keep == ls.length && !closed)
    else joinLines (ls.take sp.count) (sp.count ≥ ls.length && !closed)

/-- The part of one input that `tail` writes. -/
def tailOf (sp : Span) (s : String) : String :=
  if sp.bytes then
    if sp.fromOther then (s.drop (sp.count - 1)).toString else (s.drop (s.length - sp.count)).toString
  else
    let (ls, closed) := splitLines s
    let kept := if sp.fromOther then ls.drop (sp.count - 1) else ls.drop (ls.length - sp.count)
    joinLines kept (!closed)

/-- How many bytes of an input `head` takes for its span: the first lines, or bytes. -/
def headLength (sp : Span) (bs : List UInt8) : Nat :=
  if sp.bytes then min sp.count bs.length
  else
    let rec go : List UInt8 → Nat → Nat → Nat
      | [], _, acc => acc
      | b :: rest, need, acc =>
        if b == 10 then (if need ≤ 1 then acc + 1 else go rest (need - 1) (acc + 1))
        else go rest need (acc + 1)
    if sp.count == 0 then 0 else go bs sp.count 0

/-- Standard input as `head` reads it: what it needs is taken, and the rest is left to the next
reader when the input is a file or when bytes are counted; a pipe read for lines is drained. -/
def readHeadInput (sp : Span) : Sh (Except OsError (List UInt8)) := do
  match ← unread 0 with
  | some data =>
    let used := headLength sp data
    consume 0 (if sp.bytes || (← seekable 0) then used else data.length)
    let enough := if sp.bytes then data.length ≥ sp.count
      else data.count 10 ≥ sp.count
    if !enough then markDrained 0
    return .ok data
  | none => return .ok []

/-- `head` (with `first`) or `tail`. -/
def headTailProgram (first : Bool) (name : String) (args : List String) : Sh Unit := do
  let (spec, opts, files) ← spanOptions name args
  let sp ← match spec with
    | some (c, v) =>
      match readSpan (c == 'c') v with
      | .ok sp =>
        -- `head -n -k` leaves out the last lines; `tail -n -k` is the same as `tail -n k`.
        if first then pure sp
        else pure { sp with fromOther := v.startsWith "+" }
      | .error msg =>
        say name (msg ++ ": " ++ (← quoted (if v.startsWith "-" && !first then (v.drop 1).toString else v)))
        exitWith 1
    | none => pure {}
  let files := if files.isEmpty then ["-"] else files
  let headers := (files.length > 1 || hasOpt opts 'v') && !hasOpt opts 'q'
  let mut ok := true
  let mut firstOut := true
  for f in files do
    let read ← if f == "-" && first && !sp.fromOther then readHeadInput sp
      else if ← endlessZeros f then
        -- Endless zeros: enough of them for a count of bytes from the start; any other
        -- count never finds the end.
        if first && sp.bytes && !sp.fromOther then pure (.ok (List.replicate sp.count 0))
        else throw .exhausted
      else readOperand f
    match read with
    | .ok bs =>
      if headers then
        out ((if firstOut then "" else "\n") ++ "==> " ++ (if f == "-" then "standard input" else f) ++ " <==\n")
      firstOut := false
      let s := Text.ofBytes bs
      out (if first then headOf sp s else tailOf sp s)
    | .error e =>
      say name ("cannot open " ++ (← quoted f) ++ " for reading: " ++ e.description)
      ok := false
  exitWith (if ok then 0 else 1)

/-! ## `wc` -/

/-- The counts of one input: lines, words, characters, bytes and the longest line. -/
structure Counts where
  lines : Nat := 0
  words : Nat := 0
  chars : Nat := 0
  bytes : Nat := 0
  longest : Nat := 0

/-- Add the counts of another input. -/
def Counts.add (a b : Counts) : Counts :=
  { lines := a.lines + b.lines, words := a.words + b.words, chars := a.chars + b.chars,
    bytes := a.bytes + b.bytes, longest := max a.longest b.longest }

/-- Whether a byte is white space between words. -/
def isWordSpace (c : Char) : Bool :=
  c == ' ' || c == '\t' || c == '\n' || c == '\r' || c == '\x0b' || c == '\x0c'

/-- Count a byte string; characters are bytes unless `utf8`. -/
def countText (utf8 : Bool) (s : String) : Counts :=
  let cs := s.toList
  let (words, _) := cs.foldl (fun (n, inWord) c =>
    if isWordSpace c then (n, false) else if inWord then (n, true) else (n + 1, true)) (0, false)
  let longest := ((s.splitOn "\n").map fun l =>
    l.toList.foldl (fun w c => if c == '\t' then w + 8 - w % 8 else w + 1) 0).foldl max 0
  { lines := cs.count '\n', words, bytes := cs.length,
    chars := if utf8 then (Text.decode s).length else cs.length, longest }

/-- What `wc` learns of an operand before reading it, for the width of its columns: nothing
when it cannot be found, the size of a regular file, and `none` for anything else. -/
def sizeForWidth (f : String) : Sh (Option (Option Nat)) := do
  let w ← get
  if f == "-" then
    match w.sh.fd? 0 with
    | some (.opened id) =>
      match w.p.files[id]? with
      | some o => return some (if o.path.isSome then some o.data.length else none)
      | none => return some none
    | _ => return some none
  match w.p.fs.stat w.sh.cwd f with
  | .ok (.file c _) => return some (some c.length)
  | .ok _ => return some none
  | .error _ => return none

/-- The width of `wc`'s columns: the digits of the total size of the regular operands, at least
7 when one is not regular, and 1 when the first cannot be found or one count of one operand is
asked for. -/
def countWidth (single : Bool) (sizes : List (Option (Option Nat))) : Nat :=
  match sizes with
  | some _ :: _ =>
    if single then 1
    else
      let total := sizes.foldl (fun t s => t + ((s.bind id).getD 0)) 0
      let minimum := if sizes.any (· == some none) then 7 else 1
      max minimum (toString total).length
  | _ => 1

/-- The `wc` program. -/
def wcProgram (name : String) (args : List String) : Sh Unit := do
  let (opts, files) ← options name "clmwL" true args
    [("bytes", 'c'), ("chars", 'm'), ("lines", 'l'), ("words", 'w'), ("max-line-length", 'L')]
  let utf8 := utf8Locale (← getShell)
  let chosen := if opts.isEmpty then ['l', 'w', 'c'] else
    ['l', 'w', 'm', 'c', 'L'].filter (hasOpt opts ·)
  let named := !files.isEmpty
  let files := if files.isEmpty then ["-"] else files
  let sizes ← files.mapM sizeForWidth
  let width := countWidth (files.length == 1 && chosen.length == 1) sizes
  let mut results : List (String × Counts) := []
  let mut ok := true
  for f in files do
    match ← readOperand f with
    | .ok bs =>
      let c := countText utf8 (Text.ofBytes bs)
      results := results ++ [(f, c)]
    | .error e =>
      say name (f ++ ": " ++ e.description)
      ok := false
  let column (c : Counts) (k : Char) : Nat :=
    match k with
    | 'l' => c.lines
    | 'w' => c.words
    | 'm' => c.chars
    | 'c' => c.bytes
    | _ => c.longest
  let row (c : Counts) : String :=
    " ".intercalate (chosen.map fun k =>
      let t := toString (column c k)
      fill (width - t.length) ' ' ++ t)
  for (f, c) in results do
    out (row c ++ (if named then " " ++ f else "") ++ "\n")
  if files.length > 1 then
    let total := results.foldl (fun acc (_, c) => acc.add c) {}
    out (row total ++ " total\n")
  exitWith (if ok then 0 else 1)

/-! ## `cut` -/

/-- A list of positions: ranges `a-b`, `a-`, `-b` or `a`, counted from 1. -/
def readRanges (s : String) : Except String (List (Nat × Option Nat)) :=
  (s.splitOn ",").foldlM (fun acc piece =>
    match piece.splitOn "-" with
    | [a] =>
      match a.toNat? with
      | some 0 => .error "fields and positions are numbered from 1"
      | some k => .ok (acc ++ [(k, some k)])
      | none => .error "invalid field value"
    | [a, b] =>
      let lo := if a.isEmpty then some 1 else a.toNat?
      let hi := if b.isEmpty then some none else b.toNat?.map some
      match lo, hi with
      | some 0, _ => .error "fields and positions are numbered from 1"
      | some l, some h =>
        if a.isEmpty && b.isEmpty then .error "invalid range with no endpoint: -"
        else if h.any (· < l) then .error "invalid decreasing range"
        else .ok (acc ++ [(l, h)])
      | _, _ => .error "invalid field range"
    | _ => .error "invalid field range") []

/-- Whether position `i` (from 1) is in the ranges. -/
def inRanges (rs : List (Nat × Option Nat)) (i : Nat) : Bool :=
  rs.any fun (lo, hi) => lo ≤ i && hi.all (i ≤ ·)

/-- Ranges sorted by their start, overlapping ones joined. -/
def mergeRanges (rs : List (Nat × Option Nat)) : List (Nat × Option Nat) :=
  let sorted := rs.mergeSort fun a b => a.1 ≤ b.1
  (sorted.foldl (fun (acc : List (Nat × Option Nat)) (lo, hi) => match acc with
    | (plo, phi) :: done =>
      if phi.all (lo ≤ ·) then
        (plo, match phi, hi with
          | some x, some y => some (max x y)
          | _, _ => none) :: done
      else (lo, hi) :: acc
    | [] => [(lo, hi)]) []).reverse

/-- The positions from 1 that sorted, joined ranges leave out, as ranges. -/
def complementRanges (rs : List (Nat × Option Nat)) : List (Nat × Option Nat) :=
  let (gaps, next) := rs.foldl (fun (acc : List (Nat × Option Nat) × Option Nat) (lo, hi) =>
    match acc with
    | (gaps, some cur) =>
      let gaps := if lo > cur then gaps ++ [(cur, some (lo - 1))] else gaps
      (gaps, hi.map (· + 1))
    | (gaps, none) => (gaps, none)) ([], some 1)
  match next with
  | some cur => gaps ++ [(cur, none)]
  | none => gaps

/-- The `cut` program. -/
def cutProgram (name : String) (args : List String) : Sh Unit := do
  let complement := Char.ofNat 1
  let outDelim := Char.ofNat 2
  let (opts, files) ← options name ("b:c:d:f:nsz" ++ String.singleton complement ++
      String.singleton outDelim ++ ":") true args
    [("bytes", 'b'), ("characters", 'c'), ("delimiter", 'd'), ("fields", 'f'),
     ("only-delimited", 's'), ("zero-terminated", 'z'), ("complement", complement),
     ("output-delimiter", outDelim)]
  let lists := opts.filter fun (c, _) => c == 'b' || c == 'c' || c == 'f'
  let (kind, spec) ← match lists with
    | [(k, v)] => pure (k, v)
    | [] => usageError name "you must specify a list of bytes, characters, or fields"
    | _ => usageError name "only one type of list may be specified"
  let delim := (optArg opts 'd').getD "\t"
  if delim.length != 1 then usageError name "the delimiter must be a single character"
  if kind != 'f' && hasOpt opts 'd' then
    usageError name "an input delimiter may be specified only when operating on fields"
  if kind != 'f' && hasOpt opts 's' then
    usageError name "suppressing non-delimited lines makes sense\n\tonly when operating on fields"
  let ranges ← match readRanges spec with
    | .ok r => pure (mergeRanges r)
    | .error msg => usageError name msg
  let ranges := if hasOpt opts complement then complementRanges ranges else ranges
  let starts := ranges.map (·.1)
  let joiner := (optArg opts outDelim).getD (if kind == 'f' then delim else "")
  let d := delim.toList.headD '\t'
  let ending := if hasOpt opts 'z' then Char.ofNat 0 else '\n'
  let (inputs, ok) ← readInputs name files
  for (_, bs) in inputs do
    let cs := (Text.ofBytes bs).toList
    let records := if cs.isEmpty then [] else
      let pieces := cs.splitOn ending
      if cs.getLast? == some ending then pieces.dropLast else pieces
    let outRecords := records.filterMap fun r =>
      if kind == 'f' then
        if !r.contains d then
          if hasOpt opts 's' then none else some (String.ofList r)
        else
          let fs := r.splitOn d
          let picked := (fs.zip (List.range fs.length)).filter fun (_, i) => inRanges ranges (i + 1)
          some (joiner.intercalate (picked.map fun (f, _) => String.ofList f))
      else
        let picked := (r.zip (List.range r.length)).filter fun (_, i) => inRanges ranges (i + 1)
        let (text, _) := picked.foldl (fun (acc : String × Bool) (c, i) =>
          let sep := if acc.2 && starts.contains (i + 1) then joiner else ""
          (acc.1 ++ sep ++ String.singleton c, true)) ("", false)
        some text
    out (String.join (outRecords.map (· ++ String.singleton ending)))
  exitWith (if ok then 0 else 1)

/-! ## `uniq` and `rev` -/

/-- The part of a record `uniq` compares: after `fields` fields (runs of blanks and then
non-blanks) and then `chars` more characters, at most `width` characters when it is given. -/
def uniqPart (fields chars : Nat) (width : Option Nat) (r : List Char) : List Char :=
  let isBlank (c : Char) : Bool := c == ' ' || c == '\t' || c == '\n'
  let rest := (List.replicate fields ()).foldl
    (fun cs _ => (cs.dropWhile isBlank).dropWhile (!isBlank ·)) r
  let rest := rest.drop chars
  match width with
  | some w => rest.take w
  | none => rest

/-- Group records into runs: a record joins the run before it when it compares equal to the
run's first record, or, when `againstLast`, to its last. -/
def uniqRuns (same : List Char → List Char → Bool) (againstLast : Bool) (rs : List (List Char)) :
    List (List (List Char)) :=
  let step (acc : List (List (List Char))) (r : List Char) : List (List (List Char)) :=
    match acc with
    | run :: done =>
      let anchor := if againstLast then run.headD [] else run.getLastD []
      if same anchor r then (r :: run) :: done else [r] :: acc
    | [] => [[r]]
  (rs.foldl step []).reverse.map List.reverse

/-- Which records of a run `uniq` writes: with `all` (`-D`), every one of a run of two or
more; else the first, when the run's size is wanted (`-u` for single records, `-d` for
repeated ones). -/
def uniqShown (all unique repeated : Bool) (run : List (List Char)) : List (List Char) :=
  if all then (if run.length > 1 then run else [])
  else if run.length == 1 then (if unique then run.take 1 else [])
  else if repeated then run.take 1 else []

/-- A size argument of `uniq`: a count read as `strtoumax` does. -/
def uniqSize (name what v : String) : Sh Nat := do
  let body := v.toList.dropWhile isBlankC
  let body := if body.head? == some '+' then body.drop 1 else body
  if !body.isEmpty && body.all Char.isDigit then return digitsValue 10 body
  say name (v ++ ": " ++ what)
  exitWith 1

/-- The `uniq` program: `uniq [options] [input [output]]`. -/
def uniqProgram (name : String) (args : List String) : Sh Unit := do
  let (opts, ops) ← options name "cdDuif:s:w:z" true args
    [("count", 'c'), ("repeated", 'd'), ("all-repeated", 'D'), ("skip-fields", 'f'),
     ("ignore-case", 'i'), ("skip-chars", 's'), ("unique", 'u'), ("zero-terminated", 'z'),
     ("check-chars", 'w')]
  let mut fields := 0
  let mut chars := 0
  let mut width : Option Nat := none
  for (c, v) in opts do
    match c with
    | 'f' => fields ← uniqSize name "invalid number of fields to skip" v
    | 's' => chars ← uniqSize name "invalid number of bytes to skip" v
    | 'w' => width := some (← uniqSize name "invalid number of bytes to compare" v)
    | _ => pure ()
  if ops.length > 2 then usageError name ("extra operand " ++ (← quoted (ops.getD 2 "")))
  if hasOpt opts 'c' && hasOpt opts 'D' then
    usageError name "printing all duplicated lines and repeat counts is meaningless"
  let input := ops.headD "-"
  let bs ← match ← readOperand input with
    | .ok bs => pure bs
    | .error e =>
      say name (input ++ ": " ++ e.description)
      exitWith 1
  let delim := if hasOpt opts 'z' then Char.ofNat 0 else '\n'
  let cs := (Text.ofBytes bs).toList
  let records := if cs.isEmpty then [] else
    let pieces := cs.splitOn delim
    if cs.getLast? == some delim then pieces.dropLast else pieces
  let fold (r : List Char) : List Char := if hasOpt opts 'i' then r.map Char.toUpper else r
  let same (a b : List Char) : Bool :=
    fold (uniqPart fields chars width a) == fold (uniqPart fields chars width b)
  let all := hasOpt opts 'D'
  let runs := uniqRuns same all records
  let text := String.join (runs.map fun run =>
    String.join ((uniqShown all (!hasOpt opts 'd') (!hasOpt opts 'u') run).map fun r =>
      let count := if hasOpt opts 'c' then
        let t := toString run.length
        fill (7 - t.length) ' ' ++ t ++ " " else ""
      count ++ String.ofList r ++ String.singleton delim))
  match ops with
  | [_, target] =>
    let w ← get
    match w.p.fs.createPath w.sh.cwd target with
    | .ok q => modifyProc fun p => { p with fs := p.fs.put q (.file text 0o644) }
    | .error e =>
      say name (target ++ ": " ++ e.description)
      exitWith 1
  | _ => out text
  exitWith 0

/-- The `rev` program: each line's characters in reverse order. -/
def revProgram (name : String) (args : List String) : Sh Unit := do
  let (_, files) ← options name "" true args
  let utf8 := utf8Locale (← getShell)
  let (inputs, ok) ← readInputs name files
  for (_, bs) in inputs do
    let (ls, closed) := splitLines (Text.ofBytes bs)
    let flipped := ls.map fun l =>
      if utf8 && (Text.decode? l).isSome then Text.encode (String.ofList (Text.decode l).toList.reverse)
      else String.ofList l.toList.reverse
    out (joinLines flipped (!closed))
  exitWith (if ok then 0 else 1)

end Fanout.Programs
