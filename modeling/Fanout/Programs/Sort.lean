import Fanout.Programs.Basic
import Fanout.Posix.Numeric

/-!
# `sort`

`sort` orders the records of its operands (lines, or with `-z` strings ended by a zero byte)
by a list of keys. A key is a span of each record, from a field and character to a field and
character, compared as bytes or as a number, a month name or a version, after leaving out
the characters it ignores and folding case. Records that all keys find equal are ordered by
their whole bytes, unless the order is to be stable or unique.

Fields are the pieces between separators given by `-t`; without one, a field is a run of
blanks followed by the non-blanks after it. Options given outside `-k` are the keys' defaults,
taken by each key that has no ordering letters of its own; when there is no `-k` they form one
key of the whole record, if they ask for anything beyond the byte order.

`-m` merges its operands as if each were sorted already, `-c` and `-C` check that the input is
in order, `-u` keeps the first of each run of equal records, and `-o` names the output, which
is written only after all input is read.
-/

namespace Fanout.Programs

open Fanout.Posix

/-- Which characters a key leaves out of its comparison. -/
inductive Ignored where
  /-- None. -/
  | nothing
  /-- Those that are not printable (`-i`). -/
  | nonprinting
  /-- Those that are neither letters, digits nor blanks (`-d`). -/
  | nondictionary
  deriving BEq, Inhabited, Repr

/-- A sort key: where it starts and ends in a record, and how it compares. `start` is a field
counted from zero and the characters to skip in it, `none` for the start of the record;
`stop` is a field counted from zero and the characters of it to take (zero: all of it), `none`
for the end of the record. -/
structure SortKey where
  start : Option (Nat × Nat) := none
  stop : Option (Nat × Nat) := none
  skipStartBlanks : Bool := false
  skipEndBlanks : Bool := false
  ignore : Ignored := .nothing
  fold : Bool := false
  numeric : Bool := false
  general : Bool := false
  human : Bool := false
  month : Bool := false
  version : Bool := false
  random : Bool := false
  reverse : Bool := false
  deriving Inhabited, Repr

/-- Whether a key compares plain bytes: no ordering letter is set (reversal aside). -/
def SortKey.plain (k : SortKey) : Bool :=
  k.ignore == .nothing && !k.fold && !k.skipStartBlanks && !k.skipEndBlanks && !k.month &&
    !k.numeric && !k.general && !k.human && !k.version && !k.random

/-- The ordering letters of a key, in the order the messages list them. -/
def SortKey.letters (k : SortKey) : String :=
  String.ofList ([('b', k.skipStartBlanks || k.skipEndBlanks), ('d', k.ignore == .nondictionary),
    ('f', k.fold), ('g', k.general), ('h', k.human), ('i', k.ignore == .nonprinting),
    ('M', k.month), ('n', k.numeric), ('R', k.random), ('r', k.reverse),
    ('V', k.version)].filterMap fun (c, on) => if on then some c else none)

/-- Whether a key asks for two orders that exclude each other. -/
def SortKey.conflicting (k : SortKey) : Bool :=
  let count := [k.numeric, k.general, k.human, k.month,
    k.version || k.random || k.ignore != .nothing].countP id
  count > 1

/-- Set the ordering letters at the head of `cs` on a key; `atStart` and `atEnd` say which end
a `b` applies to. The rest of the text is returned too. -/
def SortKey.withLetters (k : SortKey) (atStart atEnd : Bool) : List Char → SortKey × List Char
  | [] => (k, [])
  | c :: rest =>
    let k' : Option SortKey := match c with
      | 'b' => some { k with skipStartBlanks := k.skipStartBlanks || atStart,
                             skipEndBlanks := k.skipEndBlanks || atEnd }
      | 'd' => some { k with ignore := .nondictionary }
      | 'f' => some { k with fold := true }
      | 'g' => some { k with general := true }
      | 'h' => some { k with human := true }
      | 'i' => some { k with ignore := if k.ignore == .nothing then .nonprinting else k.ignore }
      | 'M' => some { k with month := true }
      | 'n' => some { k with numeric := true }
      | 'R' => some { k with random := true }
      | 'r' => some { k with reverse := true }
      | 'V' => some { k with version := true }
      | _ => none
    match k' with
    | some k2 => k2.withLetters atStart atEnd rest
    | none => (k, c :: rest)

/-- A blank between fields: space, tab or newline. -/
def isSortBlank (c : Char) : Bool := c == ' ' || c == '\t' || c == '\n'

/-! ## Reading key definitions -/

/-- Read a count at the head of a key definition as `strtoumax` does (blanks and a `+` may
lead): the count and the rest, or none when no digits come. -/
def keyCount (cs : List Char) : Option (Nat × List Char) :=
  let body := cs.dropWhile isBlankC
  if body.head? == some '-' then none
  else
    let body := if body.head? == some '+' then body.drop 1 else body
    let ds := body.takeWhile Char.isDigit
    if ds.isEmpty then none else some (digitsValue 10 ds, body.drop ds.length)

/-- Why a key definition is refused: the message, and whether it is about a count (then the
text of the count follows) or about the whole definition. -/
inductive KeyError where
  /-- A count is missing or malformed at the text given. -/
  | badCount (what : String) (text : String)
  /-- The definition as a whole is wrong. -/
  | badSpec (what : String)
  deriving Inhabited, Repr

/-- Read a key definition `F[.C][letters][,F[.C][letters]]` on top of a fresh key. -/
def readKey (s : String) : Except KeyError SortKey := do
  let cs := s.toList
  let (sword, rest) ← match keyCount cs with
    | some r => pure r
    | none => throw (.badCount "invalid number at field start" s)
  if sword == 0 then throw (.badSpec "field number is zero")
  let (schar, rest) ← match rest with
    | '.' :: more =>
      match keyCount more with
      | some (0, _) => throw (.badSpec "character offset is zero")
      | some (c, r) => pure (c - 1, r)
      | none => throw (.badCount "invalid number after '.'" (String.ofList more))
    | _ => pure (0, rest)
  let start := if sword - 1 == 0 && schar == 0 then none else some (sword - 1, schar)
  let (k, rest) := ({ start } : SortKey).withLetters true false rest
  let (k, rest) ← match rest with
    | ',' :: more =>
      let (eword, r) ← match keyCount more with
        | some r => pure r
        | none => throw (.badCount "invalid number after ','" (String.ofList more))
      if eword == 0 then throw (.badSpec "field number is zero")
      let (echar, r) ← match r with
        | '.' :: m =>
          match keyCount m with
          | some r2 => pure r2
          | none => throw (.badCount "invalid number after '.'" (String.ofList m))
        | _ => pure (0, r)
      pure ({ k with stop := some (eword - 1, echar) }.withLetters false true r)
    | _ => pure (k, rest)
  if !rest.isEmpty then throw (.badSpec "stray character in field spec")
  return k

/-! ## Where a key lies in a record -/

/-- Skip one field: up to and past the separator, or a run of blanks and then non-blanks. -/
def skipField (tab : Option Char) (cs : List Char) : List Char :=
  match tab with
  | some t => (cs.dropWhile (· != t)).drop 1
  | none => (cs.dropWhile isSortBlank).dropWhile (!isSortBlank ·)

/-- Skip `k` fields. -/
def skipFields (tab : Option Char) : Nat → List Char → List Char
  | 0, cs => cs
  | _ + 1, [] => []
  | k + 1, cs => skipFields tab k (skipField tab cs)

/-- The offset where a key starts in a record. -/
def keyBegin (tab : Option Char) (k : SortKey) (line : List Char) : Nat :=
  match k.start with
  | none => if k.skipStartBlanks then (line.takeWhile isSortBlank).length else 0
  | some (sword, schar) =>
    let rest := skipFields tab sword line
    let rest := if k.skipStartBlanks then rest.dropWhile isSortBlank else rest
    line.length - rest.length + min schar rest.length

/-- Skip `k` fields toward a key's end; with a separator the last one stops at it unless
`pastLast`. -/
def skipEndFields (tab : Option Char) (pastLast : Bool) : Nat → List Char → List Char
  | 0, cs => cs
  | _ + 1, [] => []
  | k + 1, cs =>
    match tab with
    | some t =>
      let rest := cs.dropWhile (· != t)
      let rest := if k > 0 || pastLast then rest.drop 1 else rest
      skipEndFields tab pastLast k rest
    | none => skipEndFields tab pastLast k ((cs.dropWhile isSortBlank).dropWhile (!isSortBlank ·))

/-- The offset where a key ends in a record. -/
def keyLimit (tab : Option Char) (k : SortKey) (line : List Char) : Nat :=
  match k.stop with
  | none => line.length
  | some (eword, echar) =>
    let rest := skipEndFields tab (echar != 0) (if echar == 0 then eword + 1 else eword) line
    if echar == 0 then line.length - rest.length
    else
      let rest := if k.skipEndBlanks then rest.dropWhile isSortBlank else rest
      line.length - rest.length + min echar rest.length

/-- The bytes of a record that a key compares, before characters are left out or folded. -/
def keyBytes (tab : Option Char) (k : SortKey) (line : List Char) : List Char :=
  let b := keyBegin tab k line
  let l := keyLimit tab k line
  (line.drop b).take (l - b)

/-! ## Comparing keys -/

/-- Compare two lists of bytes: shorter first when one is the start of the other. -/
def compareBytes : List Char → List Char → Int
  | [], [] => 0
  | [], _ => -1
  | _, [] => 1
  | a :: as, b :: bs => if a < b then -1 else if b < a then 1 else compareBytes as bs

/-- A number as `sort -n` reads it after blanks: a minus sign, digits and a fraction after a
point. The sign, the digits before the point without leading zeros and those after it without
trailing zeros. -/
def plainNumber (cs : List Char) : Bool × List Char × List Char :=
  let cs := cs.dropWhile isSortBlank
  let (neg, cs) := match cs with
    | '-' :: r => (true, r)
    | _ => (false, cs)
  let whole := cs.takeWhile Char.isDigit
  let frac := match cs.drop whole.length with
    | '.' :: r => r.takeWhile Char.isDigit
    | _ => []
  (neg, whole.dropWhile (· == '0'), (frac.reverse.dropWhile (· == '0')).reverse)

/-- Compare the magnitudes of two numbers given as digits before and after the point. -/
def compareMagnitude (a b : List Char × List Char) : Int :=
  if a.1.length != b.1.length then (if a.1.length < b.1.length then -1 else 1)
  else
    let c := compareBytes a.1 b.1
    if c != 0 then c else compareBytes a.2 b.2

/-- Compare two texts as numbers read by `plainNumber`; zero has no sign. -/
def compareNumbers (a b : List Char) : Int :=
  let (na, ia, fa) := plainNumber a
  let (nb, ib, fb) := plainNumber b
  let za := ia.isEmpty && fa.isEmpty
  let zb := ib.isEmpty && fb.isEmpty
  let na := na && !za
  let nb := nb && !zb
  if na && !nb then -1
  else if nb && !na then 1
  else
    let c := compareMagnitude (ia, fa) (ib, fb)
    if na then -c else c

/-- The power of 1024 that the suffix after a number names (negative for a negative number),
as `sort -h` reads it; zero for no suffix, or when the number has no digit above zero. -/
def unitOrder (cs : List Char) : Int :=
  let (neg, body) := match cs with
    | '-' :: r => (true, r)
    | _ => (false, cs)
  let whole := body.takeWhile Char.isDigit
  let rest := body.drop whole.length
  let (frac, rest) := match rest with
    | '.' :: r => (r.takeWhile Char.isDigit, r.drop (r.takeWhile Char.isDigit).length)
    | _ => ([], rest)
  if (whole ++ frac).any (· != '0') then
    let order : Int := match rest.head? with
      | some 'K' | some 'k' => 1
      | some 'M' => 2
      | some 'G' => 3
      | some 'T' => 4
      | some 'P' => 5
      | some 'E' => 6
      | some 'Z' => 7
      | some 'Y' => 8
      | some 'R' => 9
      | some 'Q' => 10
      | _ => 0
    if neg then -order else order
  else 0

/-- Compare two texts as numbers with a unit suffix: by the suffix, then by the number. -/
def compareHuman (a b : List Char) : Int :=
  let a := a.dropWhile isSortBlank
  let b := b.dropWhile isSortBlank
  let d := unitOrder a - unitOrder b
  if d != 0 then d else compareNumbers a b

/-- Compare two texts as floating-point numbers read by `strtold`: text that is no number
comes first, then not-a-number, then the numbers in order. -/
def compareGeneral (a b : List Char) : Int :=
  let (x, ta, _) := scanFloat .extended a
  let (y, tb, _) := scanFloat .extended b
  if ta == 0 then (if tb == 0 then 0 else -1)
  else if tb == 0 then 1
  else if x.lt y then -1
  else if y.lt x then 1
  else if x.same y then 0
  else
    match x, y with
    | .nan _, .nan _ => 0
    | .nan _, _ => -1
    | _, _ => 1

/-- The month a text starts with after blanks, by its first three letters in any case: 1 to 12,
or 0 for none. -/
def monthNumber (cs : List Char) : Nat :=
  let head := String.ofList ((cs.dropWhile isSortBlank).take 3 |>.map Char.toUpper)
  match ["JAN", "FEB", "MAR", "APR", "MAY", "JUN", "JUL", "AUG", "SEP", "OCT", "NOV",
      "DEC"].idxOf? head with
  | some i => i + 1
  | none => 0

/-! ## Version order -/

/-- The weight of a byte outside a run of digits in version order: the end of the text comes
before all but `~`, letters before other bytes. -/
def versionWeight : Option Char → Int
  | none => -1
  | some c =>
    if c.isDigit then 0
    else if c.isAlpha then c.toNat
    else if c == '~' then -2
    else c.toNat + 256

/-- Compare two texts in version order: runs of non-digits byte by byte by weight, runs of
digits by value. -/
def versionRuns : Nat → List Char → List Char → Int
  | 0, _, _ => 0
  | _ + 1, [], [] => 0
  | fuel + 1, a, b =>
    let nonDigit (cs : List Char) : Bool := match cs with
      | c :: _ => !c.isDigit
      | [] => false
    if nonDigit a || nonDigit b then
      let wa := versionWeight a.head?
      let wb := versionWeight b.head?
      if wa != wb then wa - wb else versionRuns fuel (a.drop 1) (b.drop 1)
    else
      let a := a.dropWhile (· == '0')
      let b := b.dropWhile (· == '0')
      let da := a.takeWhile Char.isDigit
      let db := b.takeWhile Char.isDigit
      let common := min da.length db.length
      let first := ((da.take common).zip (db.take common)).find? (fun (x, y) => x != y)
      if da.length > common then 1
      else if db.length > common then -1
      else
        match first with
        | some (x, y) => (x.toNat : Int) - y.toNat
        | none => versionRuns fuel (a.drop common) (b.drop common)

/-- The length of a name without its suffix: the longest tail made of `.` followed by a
letter or `~` and then letters, digits and `~`, repeated. The first byte is never part of it. -/
def versionPrefixLength (cs : List Char) : Nat :=
  let arr := cs.toArray
  let n := arr.size
  let isTailChar (c : Char) : Bool := c.isAlphanum || c == '~'
  let rec suffixRun : Nat → Nat → Nat
    | 0, i => i
    | fuel + 1, i =>
      if i + 1 < n && arr.getD i ' ' == '.' &&
          ((arr.getD (i + 1) ' ').isAlpha || arr.getD (i + 1) ' ' == '~') then
        let j := (List.range (n - (i + 2))).find? (fun d => !isTailChar (arr.getD (i + 2 + d) ' '))
        suffixRun fuel (match j with | some d => i + 2 + d | none => n)
      else i
  let rec scan : Nat → Nat → Nat → Nat
    | 0, _, p => p
    | fuel + 1, i, p =>
      if i == n then p
      else
        let i := i + 1
        scan fuel (suffixRun (n + 1) i) i
  scan (n + 1) 0 0

/-- Compare two texts in version order: an empty text first, then `.`, `..` and other names
starting with a dot; names are compared without their suffixes first, and with them on a tie. -/
def compareVersions (a b : List Char) : Int :=
  if a.isEmpty then (if b.isEmpty then 0 else -1)
  else if b.isEmpty then 1
  else
    let special : Option Int :=
      match a.head?, b.head? with
      | some '.', some '.' =>
        if a == ['.'] then some (if b == ['.'] then 0 else -1)
        else if b == ['.'] then some 1
        else if a == ['.', '.'] then some (if b == ['.', '.'] then 0 else -1)
        else if b == ['.', '.'] then some 1
        else none
      | some '.', _ => some (-1)
      | _, some '.' => some 1
      | _, _ => none
    match special with
    | some r => r
    | none =>
      let pa := versionPrefixLength a
      let pb := versionPrefixLength b
      let fuel := a.length + b.length + 2
      let r := versionRuns fuel (a.take pa) (b.take pb)
      if r != 0 || (pa == a.length && pb == b.length) then r else versionRuns fuel a b

/-! ## Comparing records -/

/-- The bytes of a key that take part in the comparison: those not left out, folded to upper
case when asked. -/
def SortKey.prepare (k : SortKey) (cs : List Char) : List Char :=
  let kept := match k.ignore with
    | .nothing => cs
    | .nonprinting => cs.filter fun c => c.toNat ≥ 32 && c.toNat < 127
    | .nondictionary => cs.filter fun c => c.isAlphanum || isSortBlank c
  if k.fold then kept.map Char.toUpper else kept

/-- Compare the texts of one key. -/
def SortKey.compareText (k : SortKey) (a b : List Char) : Int :=
  let a := k.prepare a
  let b := k.prepare b
  let c :=
    if k.numeric then compareNumbers a b
    else if k.general then compareGeneral a b
    else if k.human then compareHuman a b
    else if k.month then (monthNumber a : Int) - monthNumber b
    else if k.version then compareVersions a b
    else compareBytes a b
  if k.reverse then -c else c

/-- How records are put in order: the keys, the field separator, whether ties are left as they
are (`stable` or `unique`), and whether the last resort of whole bytes is reversed. -/
structure SortOrder where
  keys : List SortKey
  tab : Option Char
  unique : Bool
  stable : Bool
  reverse : Bool

/-- Compare two records: by the keys in turn, then, unless ties stand, by their whole bytes. -/
def SortOrder.compare (o : SortOrder) (a b : List Char) : Int :=
  let byKeys := o.keys.foldl (fun acc k =>
    if acc != 0 then acc else k.compareText (keyBytes o.tab k a) (keyBytes o.tab k b)) 0
  if !o.keys.isEmpty && (byKeys != 0 || o.unique || o.stable) then byKeys
  else
    let d := compareBytes a b
    if o.reverse then -d else d

/-- Merge two lists, each taken to be in order, the first winning ties. -/
def mergeRecords (o : SortOrder) : List (List Char) → List (List Char) → List (List Char)
  | [], bs => bs
  | as, [] => as
  | a :: as, b :: bs =>
    if o.compare a b ≤ 0 then a :: mergeRecords o as (b :: bs)
    else b :: mergeRecords o (a :: as) bs
termination_by as bs => as.length + bs.length

/-- Keep the first of each run of records that compare equal. -/
def firstOfRuns (o : SortOrder) (rs : List (List Char)) : List (List Char) :=
  (rs.foldl (fun (acc : List (List Char)) r => match acc with
    | p :: _ => if o.compare p r == 0 then acc else r :: acc
    | [] => [r]) []).reverse

/-- The place of the first record out of order (from 1), and that record: one that comes before
the record ahead of it, or, when `strict`, ties with it. -/
def firstDisorder (o : SortOrder) (strict : Bool) (rs : List (List Char)) :
    Option (Nat × List Char) :=
  let pairs := rs.zip (rs.drop 1)
  let bad := (pairs.zip (List.range pairs.length)).find? fun ((p, r), _) =>
    let c := o.compare p r
    c > 0 || (strict && c == 0)
  bad.map fun ((_, r), i) => (i + 2, r)

/-- Split input into records ended by `delim`; the last may lack its end. -/
def splitRecords (delim : Char) (bs : List UInt8) : List (List Char) :=
  let cs := (Text.ofBytes bs).toList
  if cs.isEmpty then []
  else
    let pieces := cs.splitOn delim
    if cs.getLast? == some delim then pieces.dropLast else pieces

/-! ## The program -/

/-- The long options of `sort`. -/
def sortLongs : List (String × Char) :=
  [("ignore-leading-blanks", 'b'), ("check", 'c'), ("dictionary-order", 'd'),
   ("ignore-case", 'f'), ("general-numeric-sort", 'g'), ("human-numeric-sort", 'h'),
   ("ignore-nonprinting", 'i'), ("key", 'k'), ("merge", 'm'), ("month-sort", 'M'),
   ("numeric-sort", 'n'), ("output", 'o'), ("random-sort", 'R'), ("reverse", 'r'),
   ("stable", 's'), ("buffer-size", 'S'), ("field-separator", 't'),
   ("temporary-directory", 'T'), ("unique", 'u'), ("version-sort", 'V'),
   ("zero-terminated", 'z')]

/-- Stop `sort` with a message and status 2. -/
def sortFail {α : Type} (name msg : String) : Sh α := do
  say name msg
  exitWith 2

/-- The separator `-t` gives, checked against one given before. -/
def readTab (name : String) (prev : Option Char) (v : String) : Sh (Option Char) := do
  let c ← match v.toList with
    | [] => sortFail name "empty tab"
    | [c] => pure c
    | _ =>
      if v == "\\0" then pure (Char.ofNat 0)
      else sortFail name ("multi-character tab " ++ (← quoted v))
  match prev with
  | some p => if p != c then sortFail name "incompatible tabs" else pure (some c)
  | none => pure (some c)

/-- The `sort` program. -/
def sortProgram (name : String) (args : List String) : Sh Unit := do
  let (opts, files) ← options name "bcCdfghik:mMno:rRsS:t:T:uVz" true args sortLongs
  let mut global : SortKey := {}
  let mut given : List SortKey := []
  let mut tab : Option Char := none
  for (c, v) in opts do
    match c with
    | 'k' =>
      match readKey v with
      | .ok k => given := given ++ [k]
      | .error (.badCount what text) =>
        sortFail name (what ++ ": invalid count at start of " ++ (← quoted text))
      | .error (.badSpec what) =>
        sortFail name (what ++ ": invalid field specification " ++ (← quoted v))
    | 't' => tab ← readTab name tab v
    | _ =>
      if "bdfghiMnRrV".contains c then
        global := (global.withLetters true true [c]).1
  let keys := given.map fun k => if k.plain && !k.reverse then
    { global with start := k.start, stop := k.stop } else k
  let keys := if keys.isEmpty && !global.plain then [global] else keys
  for k in keys do
    if k.conflicting then
      let bare : SortKey :=
        { k with skipStartBlanks := false, skipEndBlanks := false, reverse := false }
      let letters := bare.letters
      sortFail name ("options '-" ++ letters ++ "' are incompatible")
  let checking := hasOpt opts 'c' || hasOpt opts 'C'
  let files := if files.isEmpty then ["-"] else files
  if checking && files.length > 1 then
    usageError name ("extra operand " ++ (← quoted (files.getD 1 "")) ++ " not allowed with -" ++
      (if hasOpt opts 'C' then "C" else "c"))
  let w ← get
  for f in files do
    if f != "-" then
      match w.p.fs.stat w.sh.cwd f with
      | .error e => sortFail name ("cannot read: " ++ f ++ ": " ++ e.description)
      | .ok _ => pure ()
  let order : SortOrder :=
    { keys, tab, unique := hasOpt opts 'u', stable := hasOpt opts 's',
      reverse := global.reverse }
  let delim := if hasOpt opts 'z' then Char.ofNat 0 else '\n'
  let mut inputs : List (String × List (List Char)) := []
  for f in files do
    match ← readOperand f with
    | .ok bs => inputs := inputs ++ [(f, splitRecords delim bs)]
    | .error e => sortFail name ("read failed: " ++ f ++ ": " ++ e.description)
  if checking then
    let (f, rs) := inputs.headD ("-", [])
    match firstDisorder order order.unique rs with
    | some (i, r) =>
      if hasOpt opts 'c' then
        err (name ++ ": " ++ f ++ ":" ++ toString i ++ ": disorder: " ++ String.ofList r ++
          String.singleton delim)
      exitWith 1
    | none => exitWith 0
  let records :=
    if hasOpt opts 'm' then inputs.foldl (fun acc (_, rs) => mergeRecords order acc rs) []
    else (inputs.flatMap (·.2)).mergeSort fun a b => order.compare a b ≤ 0
  let records := if order.unique then firstOfRuns order records else records
  let text := String.join (records.map fun r => String.ofList r ++ String.singleton delim)
  match optArg opts 'o' with
  | some path =>
    let w ← get
    match w.p.fs.createPath w.sh.cwd path with
    | .ok q => modifyProc fun p => { p with fs := p.fs.put q (.file text 0o644) }
    | .error e => sortFail name ("open failed: " ++ path ++ ": " ++ e.description)
  | none => out text
  exitWith 0

end Fanout.Programs
