/-!
# Shell patterns

The patterns of `case` and of `${name%pattern}` and friends: `*` matches any text, `?` any one
character, `[…]` one character of a set (`!` or `^` first negates it; `a-z` is a range and
`[:alpha:]` a class of the C library, which holds ASCII characters only), and a backslash makes
the next character plain. Characters that came from quoted text are always
plain, so a pattern is built from characters tagged with whether they were quoted.
-/

namespace Fanout.Posix

/-- One element of a pattern. -/
inductive PatItem where
  | lit (c : Char)
  | any
  | star
  /-- A bracket expression: its ranges and classes, and whether it is negated. -/
  | set (negated : Bool) (ranges : List (Char × Char)) (classes : List String)
  deriving Inhabited, Repr, BEq

/-- Whether a character is in a class of the C library, by the class's name. -/
def inClass (name : String) (c : Char) : Bool :=
  let n := c.toNat
  let upper := 65 ≤ n && n ≤ 90
  let lower := 97 ≤ n && n ≤ 122
  let digit := 48 ≤ n && n ≤ 57
  let printable := 32 ≤ n && n < 127
  match name with
  | "alpha" => upper || lower
  | "upper" => upper
  | "lower" => lower
  | "digit" => digit
  | "alnum" => upper || lower || digit
  | "xdigit" => digit || (65 ≤ n && n ≤ 70) || (97 ≤ n && n ≤ 102)
  | "space" => n == 32 || (9 ≤ n && n ≤ 13)
  | "blank" => n == 32 || n == 9
  | "punct" => printable && n != 32 && !(upper || lower || digit)
  | "print" => printable
  | "graph" => printable && n != 32
  | "cntrl" => n < 32 || n == 127
  | _ => false

/-- Read the inside of a bracket expression after `[`: its ranges and classes, and the rest
after `]`, or `none` when there is no closing `]` (then `[` is a plain character). -/
def bracketBody : Nat → List (Char × Bool) → List (Char × Char) → List String →
    Option ((List (Char × Char) × List String) × List (Char × Bool))
  | 0, _, _, _ => none
  | _ + 1, [], _, _ => none
  | fuel + 1, (c, q) :: rest, acc, cls =>
    if c == ']' && !q && !(acc.isEmpty && cls.isEmpty) then some ((acc, cls), rest)
    else if c == '[' && !q && (rest.head?.map (·.1)) == some ':' then
      let body := rest.drop 1
      let name := body.takeWhile fun (d, _) => d != ':' && d != ']'
      match body.drop name.length with
      | (':', _) :: (']', _) :: r2 => bracketBody fuel r2 acc (cls ++ [String.ofList (name.map (·.1))])
      | _ => bracketBody fuel rest (acc ++ [(c, c)]) cls
    else
      match rest with
      | ('-', false) :: (d, _) :: r2 =>
        if d == ']' then bracketBody fuel rest (acc ++ [(c, c)]) cls
        else bracketBody fuel r2 (acc ++ [(c, d)]) cls
      | _ => bracketBody fuel rest (acc ++ [(c, c)]) cls

/-- Build a pattern from characters tagged with whether they were quoted. -/
def toPattern : Nat → List (Char × Bool) → List PatItem
  | 0, _ => []
  | _ + 1, [] => []
  | fuel + 1, (c, q) :: rest =>
    if q then .lit c :: toPattern fuel rest
    else if c == '*' then .star :: toPattern fuel rest
    else if c == '?' then .any :: toPattern fuel rest
    else if c == '\\' then
      match rest with
      | (d, _) :: r => .lit d :: toPattern fuel r
      | [] => [.lit '\\']
    else if c == '[' then
      let (neg, body) := match rest with
        | ('!', false) :: r => (true, r)
        | ('^', false) :: r => (true, r)
        | _ => (false, rest)
      match bracketBody (body.length + 1) body [] [] with
      | some ((ranges, classes), r) => .set neg ranges classes :: toPattern fuel r
      | none => .lit '[' :: toPattern fuel rest
    else .lit c :: toPattern fuel rest

/-- Whether one character matches one element (not `star`). -/
def PatItem.matchesChar (p : PatItem) (c : Char) : Bool :=
  match p with
  | .lit d => c == d
  | .any => true
  | .star => true
  | .set neg ranges classes =>
    ((ranges.any fun (lo, hi) => lo ≤ c && c ≤ hi) || classes.any (inClass · c)) != neg

/-- Whether the whole text matches the pattern. -/
def patMatch : List PatItem → List Char → Bool
  | [], s => s.isEmpty
  | .star :: ps, s => (List.range (s.length + 1)).any fun i => patMatch ps (s.drop i)
  | p :: ps, c :: s => p.matchesChar c && patMatch ps s
  | _ :: _, [] => false

/-- Whether a pattern has no special elements. -/
def PatItem.isPlain (p : PatItem) : Bool :=
  match p with
  | .lit _ => true
  | _ => false

/-- Remove the shortest (or, with `longest`, the longest) prefix that matches. -/
def removePrefix (pat : List PatItem) (s : String) (longest : Bool) : String :=
  let cs := s.toList
  let cuts := List.range (cs.length + 1)
  let cuts := if longest then cuts.reverse else cuts
  match cuts.find? (fun i => patMatch pat (cs.take i)) with
  | some i => String.ofList (cs.drop i)
  | none => s

/-- Remove the shortest (or, with `longest`, the longest) suffix that matches. -/
def removeSuffix (pat : List PatItem) (s : String) (longest : Bool) : String :=
  let cs := s.toList
  let n := cs.length
  let cuts := List.range (n + 1)
  let cuts := if longest then cuts.reverse else cuts
  match cuts.find? (fun i => patMatch pat (cs.drop (n - i))) with
  | some i => String.ofList (cs.take (n - i))
  | none => s

end Fanout.Posix
