import Fanout.Posix.Pattern

/-!
# The bash forms of parameter expansion

Besides the forms every shell knows, the bash dialect reads these inside `$\x7b…\x7d`:

* `name:offset` and `name:offset:length`: a substring, the offset and length being
  arithmetic; a negative offset counts from the end, and a negative length leaves that many
  characters off the end;
* `name/pattern/text`, `name//pattern/text` (every match), `name/#pattern/text` (at the
  start), `name/%pattern/text` (at the end): replacement of the longest match of a pattern;
* `name^^`, `name^`, `name,,`, `name,`: every or the first character to upper or lower case.

Here only the shape is read; the shell expands the pieces.
-/

namespace Fanout.Posix

/-- Where a replacement applies. -/
inductive ReplaceMode where
  | first
  | every
  | atStart
  | atEnd
  deriving Inhabited, DecidableEq, Repr

/-- A bash form of `$\x7b…\x7d`, its pieces still unexpanded. -/
inductive BashParam where
  | slice (name : String) (offset : String) (length : Option String)
  | replace (name : String) (mode : ReplaceMode) (pattern : String) (text : String)
  | caseMap (name : String) (upper : Bool) (all : Bool) (pattern : String)
  deriving Inhabited, Repr

/-- Split a parameter name off the front: a name, digits, or one special character. -/
def paramName? (cs : List Char) : Option (String × List Char) :=
  match cs with
  | c :: rest =>
    if c.isAlpha || c == '_' then
      let n := cs.takeWhile fun d => d.isAlphanum || d == '_'
      some (String.ofList n, cs.drop n.length)
    else if c.isDigit then
      let n := cs.takeWhile Char.isDigit
      some (String.ofList n, cs.drop n.length)
    else if "@*#?-$!".toList.contains c then some (String.singleton c, rest)
    else none
  | [] => none

/-- Split at the first `/` that no backslash escapes. -/
def splitAtSlash : List Char → List Char × Option (List Char)
  | [] => ([], none)
  | '\\' :: c :: rest =>
    let (a, b) := splitAtSlash rest
    ('\\' :: c :: a, b)
  | '/' :: rest => ([], some rest)
  | c :: rest =>
    let (a, b) := splitAtSlash rest
    (c :: a, b)

/-- Read the inside of `$\x7b…\x7d` as a bash form. -/
def bashParam? (raw : String) : Option BashParam :=
  match paramName? raw.toList with
  | none => none
  | some (name, rest) =>
    match rest with
    | ':' :: more =>
      let offset := more.takeWhile (· != ':')
      match more.drop offset.length with
      | ':' :: len => some (.slice name (String.ofList offset) (some (String.ofList len)))
      | _ => some (.slice name (String.ofList offset) none)
    | '/' :: more =>
      let (mode, body) := match more with
        | '/' :: r => (ReplaceMode.every, r)
        | '#' :: r => (.atStart, r)
        | '%' :: r => (.atEnd, r)
        | r => (.first, r)
      let (pat, text) := splitAtSlash body
      some (.replace name mode (String.ofList pat) (String.ofList (text.getD [])))
    | '^' :: '^' :: pat => some (.caseMap name true true (String.ofList pat))
    | '^' :: pat => some (.caseMap name true false (String.ofList pat))
    | ',' :: ',' :: pat => some (.caseMap name false true (String.ofList pat))
    | ',' :: pat => some (.caseMap name false false (String.ofList pat))
    | _ => none

/-- The characters of a substring: from `offset` (from the end when negative) for `length`
characters (all the rest when none; leaving that many off the end when negative). None when a
negative length reaches before the start. -/
def sliceChars (cs : List Char) (offset : Int) (length : Option Int) : Option (List Char) :=
  let total : Int := cs.length
  let start := if offset < 0 then total + offset else offset
  if start < 0 || start > total then some []
  else
    let rest := cs.drop start.toNat
    match length with
    | none => some rest
    | some l =>
      if l ≥ 0 then some (rest.take l.toNat)
      else
        let stop := total + l
        if stop < start then none else some (rest.take (stop - start).toNat)

/-- The longest match of a pattern starting at the front of `cs`: its length. -/
def longestMatch (pat : List PatItem) (cs : List Char) : Option Nat :=
  (List.range (cs.length + 1)).reverse.find? fun k => patMatch pat (cs.take k)

/-- Replace, from the front of `rest` on, the longest match at the first place one starts (and
with `every`, at each place after it) by `text`. -/
def replaceRun (pat : List PatItem) (text : List Char) (every : Bool) :
    Nat → List Char → List Char
  | 0, rest => rest
  | fuel + 1, rest =>
    match rest with
    | [] => []
    | c :: r =>
      match longestMatch pat rest with
      | some k =>
        if k == 0 then c :: replaceRun pat text every fuel r
        else if every then text ++ replaceRun pat text every fuel (rest.drop k)
        else text ++ rest.drop k
      | none => c :: replaceRun pat text every fuel r

/-- Replace matches of a pattern in `cs` by `text` as `mode` says. An empty pattern replaces
nothing, except at the start or the end, where it matches the empty text there. -/
def replaceMatches (pat : List PatItem) (text : List Char) (mode : ReplaceMode) (cs : List Char) :
    List Char :=
  match mode with
  | .atStart =>
    match longestMatch pat cs with
    | some k => text ++ cs.drop k
    | none => cs
  | .atEnd =>
    match (List.range (cs.length + 1)).reverse.find? (fun k => patMatch pat (cs.drop (cs.length - k))) with
    | some k => cs.take (cs.length - k) ++ text
    | none => cs
  | .first => if pat.isEmpty then cs else replaceRun pat text false (cs.length + 1) cs
  | .every => if pat.isEmpty then cs else replaceRun pat text true (cs.length + 1) cs

/-- Whether `n` is the second of a pair of code points `lo, lo+1, …, hi` in which the even
(`evenFirst`) or the odd member of each pair is the capital. -/
def pairedSmall (evenFirst : Bool) (lo hi n : Nat) : Bool :=
  lo ≤ n && n ≤ hi && (n % 2 == 1) == evenFirst

/-- Whether `n` is the capital of such a pair. -/
def pairedCapital (evenFirst : Bool) (lo hi n : Nat) : Bool :=
  lo ≤ n && n ≤ hi && (n % 2 == 0) == evenFirst

/-- The capital of a letter, for the Latin, Greek and Cyrillic letters of the first pages;
other characters stay. -/
def upperChar (c : Char) : Char :=
  let n := c.toNat
  let chr (m : Nat) : Char := Char.ofNat m
  if 0x61 ≤ n && n ≤ 0x7A then chr (n - 32)
  else if n == 0xB5 then chr 0x39C
  else if 0xE0 ≤ n && n ≤ 0xFE && n != 0xF7 then chr (n - 32)
  else if n == 0xFF then chr 0x178
  else if n == 0x131 then chr 0x49
  else if n == 0x17F then chr 0x53
  else if pairedSmall true 0x100 0x137 n || pairedSmall false 0x139 0x148 n ||
      pairedSmall true 0x14A 0x177 n || pairedSmall false 0x179 0x17E n then chr (n - 1)
  else if n == 0x3C2 then chr 0x3A3
  else if 0x3B1 ≤ n && n ≤ 0x3CB then chr (n - 32)
  else if n == 0x3AC then chr 0x386
  else if 0x3AD ≤ n && n ≤ 0x3AF then chr (n - 37)
  else if n == 0x3CC then chr 0x38C
  else if 0x3CD ≤ n && n ≤ 0x3CE then chr (n - 63)
  else if 0x430 ≤ n && n ≤ 0x44F then chr (n - 32)
  else if 0x450 ≤ n && n ≤ 0x45F then chr (n - 80)
  else if pairedSmall true 0x460 0x481 n || pairedSmall true 0x48A 0x4BF n then chr (n - 1)
  else c

/-- The small letter of a capital, for the same letters as `upperChar`. -/
def lowerChar (c : Char) : Char :=
  let n := c.toNat
  let chr (m : Nat) : Char := Char.ofNat m
  if 0x41 ≤ n && n ≤ 0x5A then chr (n + 32)
  else if 0xC0 ≤ n && n ≤ 0xDE && n != 0xD7 then chr (n + 32)
  else if n == 0x178 then chr 0xFF
  else if n == 0x130 then chr 0x69
  else if pairedCapital true 0x100 0x137 n || pairedCapital false 0x139 0x148 n ||
      pairedCapital true 0x14A 0x177 n || pairedCapital false 0x179 0x17E n then chr (n + 1)
  else if 0x391 ≤ n && n ≤ 0x3AB && n != 0x3A2 then chr (n + 32)
  else if n == 0x386 then chr 0x3AC
  else if 0x388 ≤ n && n ≤ 0x38A then chr (n + 37)
  else if n == 0x38C then chr 0x3CC
  else if 0x38E ≤ n && n ≤ 0x38F then chr (n + 63)
  else if 0x410 ≤ n && n ≤ 0x42F then chr (n + 32)
  else if 0x400 ≤ n && n ≤ 0x40F then chr (n + 80)
  else if pairedCapital true 0x460 0x481 n || pairedCapital true 0x48A 0x4BF n then chr (n + 1)
  else c

/-- Change the case of the characters that match `pat` (any character when it is empty): all
of them, or the first one only. -/
def mapCase (upper all : Bool) (pat : List PatItem) (cs : List Char) : List Char :=
  let conv (c : Char) : Char :=
    if pat.isEmpty || patMatch pat [c] then (if upper then upperChar c else lowerChar c) else c
  match cs with
  | [] => []
  | c :: rest => if all then cs.map conv else conv c :: rest

end Fanout.Posix
