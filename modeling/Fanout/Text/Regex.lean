/-!
# Regular expressions

The basic and extended regular expressions of POSIX, with the extensions the GNU tools read:
in a basic expression `\+`, `\?` and `\|`, and in both `\n`, `\t`, `\w`, `\W`, `\s`, `\S`,
`\b`, `\B`, `\<` and `\>`.

A match is found as POSIX asks: the leftmost, and of those the longest. The matcher follows
every way an expression can match from a position and keeps, for each place it can end, the
first way found (repetitions try more rounds first), so the groups it reports are those of the
greedy reading of the longest match.
-/

namespace Fanout.Text

/-- A regular expression, read. -/
inductive Rx where
  | lit (c : Char)
  | any
  /-- A bracket expression: its ranges, its classes, and whether it is negated. -/
  | set (negated : Bool) (ranges : List (Char × Char)) (classes : List String)
  | lineStart
  | lineEnd
  | group (k : Nat) (r : Rx)
  | backref (k : Nat)
  | cat (rs : List Rx)
  | alt (rs : List Rx)
  /-- At least `lo` and at most `hi` rounds of `r`. -/
  | rep (r : Rx) (lo : Nat) (hi : Option Nat)
  /-- `\b` (or `\B` when negated): a place between a word character and another. -/
  | boundary (negated : Bool)
  /-- `\<` (or `\>`): the start (or end) of a word. -/
  | wordEdge (start : Bool)
  deriving Inhabited, Repr

/-- Whether a character is in a class of the C library, by the class's name. -/
def classHas (name : String) (c : Char) : Bool :=
  let n := c.toNat
  let upper := 65 ≤ n && n ≤ 90
  let lower := 97 ≤ n && n ≤ 122
  let digit := 48 ≤ n && n ≤ 57
  let printable := 32 ≤ n && n < 127
  match name with
  | "alpha" => upper || lower
  | "upper" => upper
  | "lower" => lower
  | "digit" => digit
  | "alnum" => upper || lower || digit
  | "xdigit" => digit || (65 ≤ n && n ≤ 70) || (97 ≤ n && n ≤ 102)
  | "space" => n == 32 || (9 ≤ n && n ≤ 13)
  | "blank" => n == 32 || n == 9
  | "punct" => printable && n != 32 && !(upper || lower || digit)
  | "print" => printable
  | "graph" => printable && n != 32
  | "cntrl" => n < 32 || n == 127
  | _ => false

/-- The class names a bracket expression may use. -/
def classNames : List String :=
  ["alpha", "upper", "lower", "digit", "alnum", "xdigit", "space", "blank", "punct", "print",
   "graph", "cntrl"]

/-- Whether a character belongs to words: a letter, a digit or `_`. -/
def isWordChar (c : Char) : Bool := classHas "alnum" c || c == '_'

/-! ## Reading -/

/-- The state of the reader: the text left and the number of groups opened so far. -/
structure RxReader where
  cs : List Char
  groups : Nat := 0
  deriving Inhabited

/-- Read the inside of a bracket expression after `[` (and `^`): its ranges, classes and the rest
after `]`. -/
def readBracket : Nat → List Char → List (Char × Char) → List String → Bool →
    Except String (List (Char × Char) × List String × List Char)
  | 0, _, _, _, _ => .error "Unmatched [, [^, [:, [., or [="
  | _ + 1, [], _, _, _ => .error "Unmatched [, [^, [:, [., or [="
  | fuel + 1, c :: rest, acc, cls, first =>
    if c == ']' && !first then .ok (acc, cls, rest)
    else if c == '[' && (rest.head? == some ':' || rest.head? == some '=' || rest.head? == some '.') then
      let kind := rest.headD ':'
      let body := rest.drop 1
      let name := body.takeWhile (· != kind)
      match body.drop name.length with
      | k :: ']' :: r2 =>
        if k != kind then .error "Unmatched [, [^, [:, [., or [="
        else if kind == ':' then
          if classNames.contains (String.ofList name) then
            readBracket fuel r2 acc (cls ++ [String.ofList name]) false
          else .error "Invalid character class name"
        else
          match name with
          | [x] => readBracket fuel r2 (acc ++ [(x, x)]) cls false
          | _ => .error "Invalid collation character"
      | _ => .error "Unmatched [, [^, [:, [., or [="
    else
      match rest with
      | '-' :: d :: r2 =>
        if d == ']' then readBracket fuel rest (acc ++ [(c, c)]) cls false
        else if d < c then .error "Invalid range end"
        else readBracket fuel r2 (acc ++ [(c, d)]) cls false
      | _ => readBracket fuel rest (acc ++ [(c, c)]) cls false

/-- Read an interval's bounds after its opening brace: `m`, `m,` or `m,n`, then the closing
brace (`\}` in a basic expression). -/
def readInterval (extended : Bool) (cs : List Char) : Except String (Nat × Option Nat × List Char) :=
  let num (xs : List Char) : Option Nat × List Char :=
    let ds := xs.takeWhile Char.isDigit
    (if ds.isEmpty then none else some (ds.foldl (fun n d => 10 * n + (d.toNat - 48)) 0), xs.drop ds.length)
  let (lo, r) := num cs
  let (hi, r) : Option Nat × List Char := match r with
    | ',' :: r2 =>
      let (h, r3) := num r2
      (h, r3)
    | _ => (lo, r)
  let close := if extended then (match r with
      | '}' :: r2 => some r2
      | _ => none)
    else (match r with
      | '\\' :: '}' :: r2 => some r2
      | _ => none)
  match close, lo with
  | some r2, some l =>
    if hi.any (· < l) then .error "Invalid content of \\\x7b\\\x7d" else .ok (l, hi, r2)
  | some r2, none => if extended then .error "Invalid preceding regular expression" else .ok (0, hi, r2)
  | none, _ => .error "Unmatched \\\x7b"

mutual

/-- Read alternatives separated by `|` (`\|` in a basic expression) up to the end or a closing
group. -/
def readAlt (extended : Bool) : Nat → RxReader → Except String (Rx × RxReader)
  | 0, _ => .error "Regular expression too big"
  | fuel + 1, st => do
    let (first, st) ← readCat extended fuel st []
    match st.cs with
    | '|' :: r =>
      if extended then
        let (rest, st) ← readAlt extended fuel { st with cs := r }
        pure (.alt [first, rest], st)
      else pure (first, st)
    | '\\' :: '|' :: r =>
      if extended then pure (first, st)
      else
        let (rest, st) ← readAlt extended fuel { st with cs := r }
        pure (.alt [first, rest], st)
    | _ => pure (first, st)

/-- Read a concatenation of repeated atoms. -/
def readCat (extended : Bool) : Nat → RxReader → List Rx → Except String (Rx × RxReader)
  | 0, _, _ => .error "Regular expression too big"
  | fuel + 1, st, acc =>
    let atEnd := match st.cs with
      | [] => true
      | '|' :: _ => extended
      | ')' :: _ => extended
      | '\\' :: '|' :: _ => !extended
      | '\\' :: ')' :: _ => !extended
      | _ => false
    if atEnd then .ok (.cat acc, st)
    else do
      let (atom, st) ← readAtom extended fuel st acc.isEmpty
      let (atom, st) ← readRepeats extended fuel atom st
      readCat extended fuel st (acc ++ [atom])

/-- Read the rounds that follow an atom: `*`, `+`, `?` and intervals. -/
def readRepeats (extended : Bool) : Nat → Rx → RxReader → Except String (Rx × RxReader)
  | 0, a, st => .ok (a, st)
  | fuel + 1, a, st =>
    match st.cs with
    | '*' :: r => readRepeats extended fuel (.rep a 0 none) { st with cs := r }
    | '+' :: r =>
      if extended then readRepeats extended fuel (.rep a 1 none) { st with cs := r } else .ok (a, st)
    | '?' :: r =>
      if extended then readRepeats extended fuel (.rep a 0 (some 1)) { st with cs := r } else .ok (a, st)
    | '\\' :: '+' :: r =>
      if extended then .ok (a, st) else readRepeats extended fuel (.rep a 1 none) { st with cs := r }
    | '\\' :: '?' :: r =>
      if extended then .ok (a, st) else readRepeats extended fuel (.rep a 0 (some 1)) { st with cs := r }
    | '{' :: r =>
      if extended then do
        let (lo, hi, r2) ← readInterval true r
        readRepeats extended fuel (.rep a lo hi) { st with cs := r2 }
      else .ok (a, st)
    | '\\' :: '{' :: r =>
      if extended then .ok (a, st)
      else do
        let (lo, hi, r2) ← readInterval false r
        readRepeats extended fuel (.rep a lo hi) { st with cs := r2 }
    | _ => .ok (a, st)

/-- Read one atom; `first` when it starts its expression, where `*` is a plain character in a
basic expression and `^` an anchor. -/
def readAtom (extended : Bool) : Nat → RxReader → Bool → Except String (Rx × RxReader)
  | 0, _, _ => .error "Regular expression too big"
  | fuel + 1, st, first =>
    match st.cs with
    | [] => .error "Invalid preceding regular expression"
    | c :: r =>
      let plain (x : Char) (rest : List Char) : Except String (Rx × RxReader) :=
        .ok (.lit x, { st with cs := rest })
      if c == '^' then
        if extended || first then .ok (.lineStart, { st with cs := r }) else plain '^' r
      else if c == '$' then
        let last := match r with
          | [] => true
          | '\\' :: ')' :: _ => !extended
          | '\\' :: '|' :: _ => !extended
          | _ => false
        if extended || last then .ok (.lineEnd, { st with cs := r }) else plain '$' r
      else if c == '.' then .ok (.any, { st with cs := r })
      else if c == '[' then
        let (neg, body) := match r with
          | '^' :: b => (true, b)
          | _ => (false, r)
        match readBracket (body.length + 1) body [] [] true with
        | .ok (ranges, classes, rest) => .ok (.set neg ranges classes, { st with cs := rest })
        | .error e => .error e
      else if c == '*' then
        if first && !extended then plain '*' r
        else if extended then .error "Invalid preceding regular expression"
        else plain '*' r
      else if extended && (c == '+' || c == '?' || c == '{') then
        if first then .error "Invalid preceding regular expression" else plain c r
      else if extended && c == '(' then do
        let k := st.groups + 1
        let (inner, st2) ← readAlt extended fuel { st with cs := r, groups := k }
        match st2.cs with
        | ')' :: r2 => pure (.group k inner, { st2 with cs := r2 })
        | _ => throw "Unmatched ( or \\("
      else if extended && c == ')' then .error "Unmatched ) or \\)"
      else if c == '\\' then
        match r with
        | [] => .error "Trailing backslash"
        | d :: r2 =>
          if !extended && d == '(' then do
            let k := st.groups + 1
            let (inner, st2) ← readAlt extended fuel { st with cs := r2, groups := k }
            match st2.cs with
            | '\\' :: ')' :: r3 => pure (.group k inner, { st2 with cs := r3 })
            | _ => throw "Unmatched ( or \\("
          else if !extended && d == ')' then .error "Unmatched ) or \\)"
          else if !extended && d == '{' && first then plain '{' r2
          else if d.isDigit && d != '0' then
            let k := d.toNat - 48
            if k > st.groups then .error "Invalid back reference"
            else .ok (.backref k, { st with cs := r2 })
          else if d == 'n' then plain '\n' r2
          else if d == 't' then plain '\t' r2
          else if d == 'w' then .ok (.set false [('_', '_')] ["alnum"], { st with cs := r2 })
          else if d == 'W' then .ok (.set true [('_', '_')] ["alnum"], { st with cs := r2 })
          else if d == 's' then .ok (.set false [] ["space"], { st with cs := r2 })
          else if d == 'S' then .ok (.set true [] ["space"], { st with cs := r2 })
          else if d == 'b' then .ok (.boundary false, { st with cs := r2 })
          else if d == 'B' then .ok (.boundary true, { st with cs := r2 })
          else if d == '<' then .ok (.wordEdge true, { st with cs := r2 })
          else if d == '>' then .ok (.wordEdge false, { st with cs := r2 })
          else plain d r2
      else plain c r

end

/-- A compiled expression: the tree, its number of groups, and whether case is ignored. -/
structure Regex where
  rx : Rx
  groups : Nat
  icase : Bool := false
  deriving Inhabited

/-- Read an expression, basic or (`extended`) extended; the message of the C library when it
is malformed. -/
def Regex.parse (extended : Bool) (src : String) (icase : Bool := false) : Except String Regex := do
  let fuel := 4 * src.length + 8
  let (rx, st) ← readAlt extended fuel { cs := src.toList }
  match st.cs with
  | [] => pure { rx, groups := st.groups, icase }
  | ')' :: _ => throw "Unmatched ) or \\)"
  | _ => throw "Unmatched ) or \\)"

/-! ## Matching -/

/-- Where each group matched: start and end, by group number. -/
abbrev Captures := List (Nat × Nat × Nat)

/-- The place of group `k`, if it took part. -/
def Captures.get? (c : Captures) (k : Nat) : Option (Nat × Nat) :=
  (c.find? (·.1 == k)).map (·.2)

/-- Record group `k` at `start`–`stop`. -/
def Captures.put (c : Captures) (k start stop : Nat) : Captures :=
  (k, start, stop) :: c.filter (·.1 != k)

/-- Keep the first way of reaching each end. -/
def firstPerEnd (xs : List (Nat × Captures)) : List (Nat × Captures) :=
  (xs.foldl (fun (acc : List (Nat × Captures)) x =>
    if acc.any (·.1 == x.1) then acc else x :: acc) []).reverse

/-- Compare characters, ignoring case when asked. -/
def sameChar (icase : Bool) (a b : Char) : Bool :=
  if icase then a.toLower == b.toLower else a == b

/-- The ways `r` matches the text `s` from position `i`: where each ends, with the groups. -/
def stepRx (icase : Bool) (s : Array Char) : Nat → Rx → Nat → Captures → List (Nat × Captures)
  | 0, _, _, _ => []
  | fuel + 1, r, i, caps =>
    let n := s.size
    let here := s[i]?
    let before := if i == 0 then none else s[i - 1]?
    match r with
    | .lit c => if here.any (sameChar icase c) then [(i + 1, caps)] else []
    | .any => if i < n then [(i + 1, caps)] else []
    | .set neg ranges classes =>
      match here with
      | some c =>
        let inSet := ranges.any (fun (lo, hi) =>
          (lo ≤ c && c ≤ hi) || (icase && ((lo ≤ c.toLower && c.toLower ≤ hi) || (lo ≤ c.toUpper && c.toUpper ≤ hi)))) ||
          classes.any (classHas · c)
        if inSet != neg then [(i + 1, caps)] else []
      | none => []
    | .lineStart => if i == 0 then [(i, caps)] else []
    | .lineEnd => if i == n then [(i, caps)] else []
    | .boundary neg =>
      let a := before.any isWordChar
      let b := here.any isWordChar
      if (a != b) != neg then [(i, caps)] else []
    | .wordEdge start =>
      let a := before.any isWordChar
      let b := here.any isWordChar
      if (start && !a && b) || (!start && a && !b) then [(i, caps)] else []
    | .group k inner =>
      (stepRx icase s fuel inner i caps).map fun (j, c) => (j, c.put k i j)
    | .backref k =>
      match caps.get? k with
      | some (a, b) =>
        let len := b - a
        if i + len ≤ n && (List.range len).all (fun t => sameChar icase (s.getD (a + t) ' ') (s.getD (i + t) ' ')) then
          [(i + len, caps)]
        else []
      | none => []
    | .cat rs =>
      rs.foldl (fun states part =>
        firstPerEnd (states.flatMap fun (j, c) => stepRx icase s fuel part j c)) [(i, caps)]
    | .alt rs => firstPerEnd (rs.flatMap fun part => stepRx icase s fuel part i caps)
    | .rep inner lo hi =>
      -- Rounds are taken while they can: the states after each number of rounds, most first.
      let limit := match hi with
        | some h => h
        | none => n - i + lo + 1
      let rec rounds : Nat → Nat → List (Nat × Captures) → List (List (Nat × Captures))
        | 0, _, _ => []
        | k + 1, done, states =>
          if done ≥ limit || states.isEmpty then []
          else
            let next := firstPerEnd (states.flatMap fun (j, c) =>
              (stepRx icase s fuel inner j c).filter fun (j2, _) => j2 > j || done < lo)
            next :: rounds k (done + 1) next
      let levels := [(i, caps)] :: rounds (limit + 1) 0 [(i, caps)]
      let usable := (levels.zip (List.range levels.length)).filter fun (_, k) => k ≥ lo
      firstPerEnd (usable.reverse.flatMap (·.1))

/-- The longest match of the expression starting at position `i`: its end and groups. -/
def Regex.matchAt (re : Regex) (s : Array Char) (i : Nat) : Option (Nat × Captures) :=
  let ends := stepRx re.icase s (s.size + 64) re.rx i []
  ends.foldl (fun best (j, c) => match best with
    | some (b, _) => if j > b then some (j, c) else best
    | none => some (j, c)) none

/-- The leftmost-longest match at or after position `start`: where it starts and ends, and the
groups. -/
def Regex.search (re : Regex) (s : Array Char) (start : Nat) : Option (Nat × Nat × Captures) :=
  let rec go : Nat → Nat → Option (Nat × Nat × Captures)
    | 0, _ => none
    | k + 1, i =>
      if i > s.size then none
      else
        match re.matchAt s i with
        | some (j, c) => some (i, j, c)
        | none => go k (i + 1)
  go (s.size + 2) start

/-- Whether the expression matches somewhere in the text. -/
def Regex.test (re : Regex) (s : String) : Bool := (re.search s.toList.toArray 0).isSome

end Fanout.Text
