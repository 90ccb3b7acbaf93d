import Fanout.Json.Basic
import Fanout.Decimal.Rational

/-!
# Reading JSON

A reader for JSON text that keeps, for every value, where it stands: the position just before its
first character and the position of its last character. Positions count lines from one and
columns in bytes from the start of the line, so a message can say `at line 1 column 33`.

Numbers are classed as the library's `Number`: an integer literal becomes `nat` or `neg` when it
fits, and a float otherwise. A float is read the way a streaming reader with a 64-bit
accumulator reads it: digits beyond what the accumulator holds are dropped and only shift the
exponent, and the accumulated integer is scaled by one power of ten in binary64 arithmetic.
-/

namespace Fanout.Json

set_option linter.unusedVariables false

/-- A place in the text: a line counted from one and a column in bytes. -/
structure Pos where
  line : Nat
  col : Nat
  deriving Repr, DecidableEq, Inhabited

/-- Why a text is not JSON. -/
inductive SyntaxCode where
  | eofList | eofObject | eofString | eofValue
  | expectedColon | expectedListCommaOrEnd | expectedObjectCommaOrEnd
  | expectedIdent | expectedValue | invalidEscape | invalidNumber | numberOutOfRange
  | invalidCodePoint | controlCharacter | keyNotString | loneSurrogate | trailingComma
  | trailingCharacters | unexpectedEndOfHexEscape | tooDeep
  deriving Repr, DecidableEq, Inhabited

/-- The sentence for each reason. -/
def SyntaxCode.text : SyntaxCode → String
  | .eofList => "EOF while parsing a list"
  | .eofObject => "EOF while parsing an object"
  | .eofString => "EOF while parsing a string"
  | .eofValue => "EOF while parsing a value"
  | .expectedColon => "expected `:`"
  | .expectedListCommaOrEnd => "expected `,` or `]`"
  | .expectedObjectCommaOrEnd => "expected `,` or `\x7d`"
  | .expectedIdent => "expected ident"
  | .expectedValue => "expected value"
  | .invalidEscape => "invalid escape"
  | .invalidNumber => "invalid number"
  | .numberOutOfRange => "number out of range"
  | .invalidCodePoint => "invalid unicode code point"
  | .controlCharacter => "control character (\\u0000-\\u001F) found while parsing a string"
  | .keyNotString => "key must be a string"
  | .loneSurrogate => "lone leading surrogate in hex escape"
  | .trailingComma => "trailing comma"
  | .trailingCharacters => "trailing characters"
  | .unexpectedEndOfHexEscape => "unexpected end of hex escape"
  | .tooDeep => "recursion limit exceeded"

/-- A reason with the place it was found. -/
structure SyntaxError where
  code : SyntaxCode
  pos : Pos
  deriving Repr, Inhabited

/-- `<reason> at line L column C`. -/
def SyntaxError.message (e : SyntaxError) : String :=
  e.code.text ++ " at line " ++ toString e.pos.line ++ " column " ++ toString e.pos.col

/-- A JSON value with its place in the text: `before` is the position of the last character
before it, `after` that of its own last character. Object members also carry the position of
the last character of their key.

Reading does not stop at the first problem, because whether a problem counts depends on what
the value is read as. Where the text stops being JSON, the tree ends in a `broken` node (the
last item of its array, or a member with an empty key); nothing after it was read. A value
that is well formed but that a strict reader refuses (a surrogate escape that does not pair, a
number beyond binary64, nesting beyond the limit) is a `fault` around what a lenient reader
made of it, since a value that is only skipped is read leniently. -/
inductive Tree where
  | leaf (v : Json) (before after : Pos)
  | arr (items : List Tree) (before after : Pos)
  | obj (members : List (String × Pos × Tree)) (before after : Pos)
  | broken (err : SyntaxError) (before : Pos)
  | fault (err : SyntaxError) (inner : Tree)
  deriving Inhabited

mutual
/-- The value without positions, members in document order. -/
def Tree.toJson : Tree → Json
  | .leaf v _ _ => v
  | .arr items _ _ => .arr (Tree.itemsToJson items)
  | .obj members _ _ => .obj (Tree.membersToJson members)
  | .broken _ _ => .null
  | .fault _ t => t.toJson

/-- The items of an array without positions. -/
def Tree.itemsToJson : List Tree → List Json
  | [] => []
  | t :: ts => t.toJson :: Tree.itemsToJson ts

/-- The members of an object without positions. -/
def Tree.membersToJson : List (String × Pos × Tree) → List (String × Json)
  | [] => []
  | (k, _, t) :: ms => (k, t.toJson) :: Tree.membersToJson ms
end

/-- Where the value starts (the position before its first character). -/
def Tree.before : Tree → Pos
  | .leaf _ b _ | .arr _ b _ | .obj _ b _ | .broken _ b => b
  | .fault _ t => t.before

/-- Where the value ends. -/
def Tree.after : Tree → Pos
  | .leaf _ _ a | .arr _ _ a | .obj _ _ a => a
  | .broken e _ => e.pos
  | .fault _ t => t.after

/-- The error a reader meets at the value itself, before looking inside it. -/
def Tree.ownError? : Tree → Option SyntaxError
  | .broken e _ | .fault e _ => some e
  | _ => none

mutual
/-- The first error a strict reader meets in the value, in the order of the text. -/
def Tree.firstError? : Tree → Option SyntaxError
  | .leaf _ _ _ => none
  | .arr items _ _ => Tree.firstErrorOfItems items
  | .obj members _ _ => Tree.firstErrorOfMembers members
  | .broken e _ | .fault e _ => some e

/-- The first strict error among items. -/
def Tree.firstErrorOfItems : List Tree → Option SyntaxError
  | [] => none
  | t :: ts => t.firstError?.or (Tree.firstErrorOfItems ts)

/-- The first strict error among members. -/
def Tree.firstErrorOfMembers : List (String × Pos × Tree) → Option SyntaxError
  | [] => none
  | (_, _, t) :: ms => t.firstError?.or (Tree.firstErrorOfMembers ms)
end

mutual
/-- Where skipping the value fails: the place where the text stops being JSON, if it does. -/
def Tree.skipError? : Tree → Option SyntaxError
  | .leaf _ _ _ => none
  | .arr items _ _ => Tree.skipErrorOfItems items
  | .obj members _ _ => Tree.skipErrorOfMembers members
  | .broken e _ => some e
  | .fault _ t => t.skipError?

/-- Where skipping items fails. -/
def Tree.skipErrorOfItems : List Tree → Option SyntaxError
  | [] => none
  | t :: ts => t.skipError?.or (Tree.skipErrorOfItems ts)

/-- Where skipping members fails. -/
def Tree.skipErrorOfMembers : List (String × Pos × Tree) → Option SyntaxError
  | [] => none
  | (_, _, t) :: ms => t.skipError?.or (Tree.skipErrorOfMembers ms)
end

/-- The text still to read and the position of the last character read. -/
structure Cursor where
  rest : List Char
  here : Pos
  deriving Inhabited

namespace Cursor

/-- Consume one character. -/
def next (c : Cursor) : Cursor :=
  match c.rest with
  | [] => c
  | ch :: r => if ch = '\n' then ⟨r, ⟨c.here.line + 1, 0⟩⟩ else ⟨r, ⟨c.here.line, c.here.col + ch.utf8Size⟩⟩

theorem length_next_lt {c : Cursor} {ch : Char} {r : List Char} (h : c.rest = ch :: r) :
    c.next.rest.length < c.rest.length := by
  simp only [next, h]
  split <;> simp

theorem length_next_le (c : Cursor) : c.next.rest.length ≤ c.rest.length := by
  rcases h : c.rest with _ | ⟨ch, r⟩
  · simp [next, h]
  · have := length_next_lt h
    simp only [h] at this ⊢
    omega

/-- The position of the next character's first byte, or the current one at the end. -/
def peekPos (c : Cursor) : Pos :=
  match c.rest with
  | [] => c.here
  | '\n' :: _ => ⟨c.here.line + 1, 0⟩
  | _ :: _ => ⟨c.here.line, c.here.col + 1⟩

/-- The next character, if any. -/
def peek (c : Cursor) : Option Char := c.rest.head?

/-- Skip blanks, tabs, line feeds and carriage returns. -/
def skipWs (c : Cursor) : Cursor :=
  match h : c.rest with
  | ch :: _ =>
    if ch = ' ' ∨ ch = '\n' ∨ ch = '\t' ∨ ch = '\r' then skipWs c.next else c
  | [] => c
termination_by c.rest.length
decreasing_by exact length_next_lt h

end Cursor

/-- A step of the reader. -/
abbrev Reading (α : Type) := Except SyntaxError (α × Cursor)

/-- Fail at the position of the last character read. -/
def failHere {α : Type} (code : SyntaxCode) (c : Cursor) : Reading α :=
  .error ⟨code, c.here⟩

/-- Fail at the position of the next character. -/
def failPeek {α : Type} (code : SyntaxCode) (c : Cursor) : Reading α :=
  .error ⟨code, c.peekPos⟩

/-! ## Numbers -/

/-- A number read: the cursor after it and its value, or the error a strict reader reports for
a number that binary64 cannot hold (reading still goes on after it). -/
abbrev NumberReading := Except SyntaxError (Except SyntaxError Number × Cursor)

/-- Whether `10 · acc + d` stays below `2^64`. -/
def fitsWord (acc d : Nat) : Bool := acc * 10 + d < Nat.pow 2 64

/-- The digit value of a character, if it is an ASCII digit. -/
def digitOf (ch : Char) : Option Nat :=
  if '0' ≤ ch ∧ ch ≤ '9' then some (ch.toNat - 48) else none

/-- Scale the accumulated significand by `10^exp` in binary64 arithmetic: one multiplication or
division by an exactly rounded power of ten, with repeated divisions by `1e308` for exponents
below `-308`. Fails when the result overflows. -/
def scaleSignificand (sig : Nat) (exp : Int) : Option Float :=
  let f := (UInt64.ofNat sig).toFloat
  let rec go (f : Float) (exp : Int) : Nat → Option Float
    | 0 => some f
    | fuel + 1 =>
      if exp.natAbs ≤ 308 then
        let p := Decimal.powerOfTen exp.natAbs
        if exp ≥ 0 then
          let g := f * p
          if g.isInf then none else some g
        else some (f / p)
      else if f == 0.0 then some f
      else if exp ≥ 0 then none
      else go (f / Decimal.powerOfTen 308) (exp + 308) fuel
  go f exp 8

/-- The float `±sig · 10^exp`, or an out-of-range failure at the cursor. -/
def finishFloat (neg : Bool) (sig : Nat) (exp : Int) (c : Cursor) : NumberReading :=
  match scaleSignificand sig exp with
  | some f => .ok (.ok (.float (if neg then -f else f)), c)
  | none => .ok (.error ⟨.numberOutOfRange, c.here⟩, c)

/-- Skip digits. -/
def skipDigits (c : Cursor) : Cursor :=
  match h : c.rest with
  | ch :: _ => if (digitOf ch).isSome then skipDigits c.next else c
  | [] => c
termination_by c.rest.length
decreasing_by all_goals exact Cursor.length_next_lt h

/-- Read the digits of an exponent after `e`/`E` and finish the float. -/
def readExponent (neg : Bool) (sig : Nat) (startExp : Int) (c : Cursor) : NumberReading :=
  let c := c.next
  let (positive, c) :=
    match c.peek with
    | some '+' => (true, c.next)
    | some '-' => (false, c.next)
    | _ => (true, c)
  match c.peek with
  | none => failHere .eofValue c
  | some ch =>
    let c := c.next
    match digitOf ch with
    | none => failHere .invalidNumber c
    | some d0 =>
      let rec more (acc : Nat) (c : Cursor) : NumberReading :=
        match h : c.rest with
        | ch :: _ =>
          match digitOf ch with
          | some d =>
            if acc * 10 + d > 2147483647 then
              -- an exponent beyond 32 bits: zero, or out of range upwards
              if sig ≠ 0 ∧ positive then
                .ok (.error ⟨.numberOutOfRange, c.next.here⟩, skipDigits c.next)
              else .ok (.ok (.float (if neg then -0.0 else 0.0)), skipDigits c.next)
            else more (acc * 10 + d) c.next
          | none => finishFloat neg sig (if positive then startExp + acc else startExp - acc) c
        | [] => finishFloat neg sig (if positive then startExp + acc else startExp - acc) c
      termination_by c.rest.length
      decreasing_by all_goals exact Cursor.length_next_lt h
      more d0 c

/-- After the fraction digits: at least one digit is required, then an optional exponent. -/
def finishFraction (neg : Bool) (startExp : Int) (sig count : Nat) (overflowed : Bool)
    (c : Cursor) : NumberReading :=
  if count = 0 ∧ ¬ overflowed then
    match c.peek with
    | some _ => failPeek .invalidNumber c
    | none => failPeek .eofValue c
  else
    let exp := startExp - count
    match c.peek with
    | some 'e' | some 'E' => readExponent neg sig exp c
    | _ => finishFloat neg sig exp c

/-- Fraction digits: each one that still fits the significand lowers the exponent; once the
significand is full, the remaining digits are skipped. -/
def fractionDigits (neg : Bool) (startExp : Int) (sig count : Nat) (overflowed : Bool)
    (c : Cursor) : NumberReading :=
  match h : c.rest with
  | ch :: _ =>
    match digitOf ch with
    | some d =>
      if overflowed then fractionDigits neg startExp sig count true c.next
      else if fitsWord sig d then fractionDigits neg startExp (sig * 10 + d) (count + 1) false c.next
      else fractionDigits neg startExp sig count true c.next
    | none => finishFraction neg startExp sig count overflowed c
  | [] => finishFraction neg startExp sig count overflowed c
termination_by c.rest.length
decreasing_by all_goals exact Cursor.length_next_lt h

/-- Read the fraction after `.`, then an optional exponent. -/
def readFraction (neg : Bool) (sig : Nat) (startExp : Int) (c : Cursor) : NumberReading :=
  fractionDigits neg startExp sig 0 false c.next

/-- Read the rest of an integer literal that no longer fits 64 bits: further digits only raise
the exponent. -/
def readLongInteger (neg : Bool) (sig : Nat) (exp : Int) (c : Cursor) : NumberReading :=
  match h : c.rest with
  | ch :: _ =>
    if (digitOf ch).isSome then readLongInteger neg sig (exp + 1) c.next
    else if ch = '.' then readFraction neg sig exp c
    else if ch = 'e' ∨ ch = 'E' then readExponent neg sig exp c
    else finishFloat neg sig exp c
  | [] => finishFloat neg sig exp c
termination_by c.rest.length
decreasing_by all_goals exact Cursor.length_next_lt h

/-- After the integer digits: a fraction, an exponent, or the integer itself in its class. -/
def readAfterInteger (neg : Bool) (sig : Nat) (c : Cursor) : NumberReading :=
  match c.peek with
  | some '.' => readFraction neg sig 0 c
  | some 'e' | some 'E' => readExponent neg sig 0 c
  | _ =>
    if ¬ neg then .ok (.ok (.nat sig), c)
    else if 0 < sig ∧ sig ≤ Nat.pow 2 63 then .ok (.ok (.neg (-(sig : Int))), c)
    else .ok (.ok (.float (-(UInt64.ofNat sig).toFloat)), c)

/-- Read the digits of an integer literal (after an optional minus sign). -/
def readInteger (neg : Bool) (c : Cursor) : NumberReading :=
  match c.peek with
  | none => failHere .eofValue c
  | some ch =>
    let c := c.next
    match digitOf ch with
    | some 0 =>
      match c.peek.bind digitOf with
      | some _ => failPeek .invalidNumber c
      | none => readAfterInteger neg 0 c
    | some d =>
      let rec more (sig : Nat) (c : Cursor) : NumberReading :=
        match h : c.rest with
        | ch :: _ =>
          match digitOf ch with
          | some d =>
            if fitsWord sig d then more (sig * 10 + d) c.next
            else readLongInteger neg sig 0 c
          | none => readAfterInteger neg sig c
        | [] => readAfterInteger neg sig c
      termination_by c.rest.length
      decreasing_by all_goals exact Cursor.length_next_lt h
      more d c
    | none => failHere .invalidNumber c

/-! ## Strings -/

/-- The value of a hex digit. -/
def hexValue (ch : Char) : Option Nat :=
  if '0' ≤ ch ∧ ch ≤ '9' then some (ch.toNat - 48)
  else if 'a' ≤ ch ∧ ch ≤ 'f' then some (ch.toNat - 87)
  else if 'A' ≤ ch ∧ ch ≤ 'F' then some (ch.toNat - 55)
  else none

/-- Four hex digits after `\u`. -/
def readHex4 (c : Cursor) : Reading Nat :=
  let rec go (acc : Nat) (c : Cursor) : Nat → Reading Nat
    | 0 => .ok (acc, c)
    | k + 1 =>
      match c.peek with
      | none => failHere .eofString c
      | some ch =>
        match hexValue ch with
        | some v => go (acc * 16 + v) c.next k
        | none => failHere .invalidEscape c.next
  go 0 c 4

/-- The character of a `\u` escape, pairing surrogates. The cursor stands after the `u`. -/
def readUnicodeEscape (c : Cursor) : Reading Char :=
  match readHex4 c with
  | .error e => .error e
  | .ok (n1, c) =>
    if 0xDC00 ≤ n1 ∧ n1 ≤ 0xDFFF then failHere .loneSurrogate c
    else if 0xD800 ≤ n1 ∧ n1 ≤ 0xDBFF then
      match c.peek with
      | some '\\' =>
        let c := c.next
        match c.peek with
        | some 'u' =>
          match readHex4 c.next with
          | .error e => .error e
          | .ok (n2, c) =>
            if n2 < 0xDC00 ∨ n2 > 0xDFFF then failHere .loneSurrogate c
            else .ok (Char.ofNat ((n1 - 0xD800) * 1024 + (n2 - 0xDC00) + 0x10000), c)
        | some _ => failHere .unexpectedEndOfHexEscape c.next
        | none => failHere .eofString c
      | some _ => failHere .unexpectedEndOfHexEscape c.next
      | none => failHere .eofString c
    else .ok (Char.ofNat n1, c)

/-- A `\u` escape read leniently (the cursor stands after the `u`): the character, the error a
strict reader reports for it when it is a surrogate that does not pair, and the cursor after
it. A lenient reader goes on right after the four digits of such a surrogate. -/
def readEscapeLenient (c : Cursor) : Except SyntaxError (Char × Option SyntaxError × Cursor) :=
  match readHex4 c with
  | .error e => .error e
  | .ok (n1, c1) =>
    if 0xD800 ≤ n1 ∧ n1 ≤ 0xDFFF then
      match readUnicodeEscape c with
      | .ok (u, c2) => .ok (u, none, c2)
      | .error e => .ok (Char.ofNat 0xFFFD, some e, c1)
    else .ok (Char.ofNat n1, none, c1)

/-- The body of a string after its opening quote, up to and including the closing quote, read
leniently: the first error a strict reader would report for an escape (`soft`), and the text
with the cursor after it, or the error that ends the string. -/
def readStringBody (acc : List Char) (soft : Option SyntaxError) (c : Cursor) :
    Option SyntaxError × Except SyntaxError (String × Cursor) :=
  match h : c.rest with
  | [] => (soft, failHere .eofString c)
  | ch :: _ =>
    if ch = '"' then (soft, .ok (String.ofList acc.reverse, c.next))
    else if ch = '\\' then
      let c1 := c.next
      match c1.peek with
      | none => (soft, failHere .eofString c1)
      | some e =>
        let c2 := c1.next
        let simple : Option Char :=
          if e = '"' then some '"' else if e = '\\' then some '\\' else if e = '/' then some '/'
          else if e = 'b' then some (Char.ofNat 8) else if e = 'f' then some (Char.ofNat 12)
          else if e = 'n' then some '\n' else if e = 'r' then some '\r' else if e = 't' then some '\t'
          else none
        match simple with
        | some s => readStringBody (s :: acc) soft c2
        | none =>
          if e = 'u' then
            match readEscapeLenient c2 with
            | .ok (u, bad, c3) =>
              if c3.rest.length < c.rest.length then readStringBody (u :: acc) (soft.or bad) c3
              else (soft, failHere .eofString c3)
            | .error err => (soft, .error err)
          else (soft, failHere .invalidEscape c2)
    else if ch.toNat < 32 then (soft, failHere .controlCharacter c.next)
    else readStringBody (ch :: acc) soft c.next
termination_by c.rest.length
decreasing_by
  all_goals first
    | exact Cursor.length_next_lt h
    | exact Nat.lt_of_le_of_lt (Cursor.length_next_le _) (Cursor.length_next_lt h)
    | assumption

/-- A string read strictly, as keys are. -/
def readStrictString (c : Cursor) : Reading String :=
  match readStringBody [] none c with
  | (some e, _) => .error e
  | (none, r) => r

/-! ## Values -/

/-- Read the letters of a literal after its first one. -/
def readIdent (word : List Char) (c : Cursor) : Except SyntaxError Cursor :=
  match word with
  | [] => .ok c
  | w :: ws =>
    match c.peek with
    | none => .error ⟨.eofValue, c.here⟩
    | some ch => if ch = w then readIdent ws c.next else .error ⟨.expectedIdent, c.next.here⟩

/-- How deep arrays and objects may nest. -/
def depthLimit : Nat := 128

/-- What reading gave: a value (ending in a `broken` node where the text stopped being JSON)
and the cursor to go on from, none when reading stopped. -/
abbrev Partial (α : Type) := α × Option Cursor

/-- A number leaf, a `fault` when it is out of range. -/
def numberLeaf (before : Pos) : NumberReading → Partial Tree
  | .ok (.ok n, c) => (.leaf (.num n) before c.here, some c)
  | .ok (.error e, c) => (.fault e (.leaf (.num (.nat 0)) before c.here), some c)
  | .error e => (.broken e before, none)

/-- A string leaf, a `fault` when a strict reader refuses one of its escapes. -/
def stringLeaf (before : Pos) : Option SyntaxError × Except SyntaxError (String × Cursor) → Partial Tree
  | (none, .ok (s, c)) => (.leaf (.str s) before c.here, some c)
  | (some e, .ok (s, c)) => (.fault e (.leaf (.str s) before c.here), some c)
  | (none, .error e) => (.broken e before, none)
  | (some e, .error e2) => (.fault e (.broken e2 before), none)

mutual

/-- Read one value after optional blanks. `fuel` bounds the recursion; `depth` counts the arrays
and objects around the value. -/
def readValue (fuel depth : Nat) (c : Cursor) : Partial Tree :=
  match fuel with
  | 0 => (.broken ⟨.tooDeep, c.peekPos⟩ c.here, none)
  | fuel + 1 =>
    let c := c.skipWs
    let before := c.here
    let stop (e : SyntaxError) : Partial Tree := (.broken e before, none)
    let literal (word : List Char) (v : Json) : Partial Tree :=
      match readIdent word c.next with
      | .ok c' => (.leaf v before c'.here, some c')
      | .error e => stop e
    match c.peek with
    | none => stop ⟨.eofValue, c.peekPos⟩
    | some ch =>
      if ch = 'n' then literal ['u', 'l', 'l'] .null
      else if ch = 't' then literal ['r', 'u', 'e'] (.bool true)
      else if ch = 'f' then literal ['a', 'l', 's', 'e'] (.bool false)
      else if ch = '-' then numberLeaf before (readInteger true c.next)
      else if (digitOf ch).isSome then numberLeaf before (readInteger false c)
      else if ch = '"' then stringLeaf before (readStringBody [] none c.next)
      else if ch = '[' then
        let (items, c') := readItems fuel (depth + 1) [] true c.next
        let t := Tree.arr items before ((c'.map (·.here)).getD before)
        (if depth + 1 ≥ depthLimit then .fault ⟨.tooDeep, c.peekPos⟩ t else t, c')
      else if ch = '{' then
        let (members, c') := readMembers fuel (depth + 1) [] true c.next
        let t := Tree.obj members before ((c'.map (·.here)).getD before)
        (if depth + 1 ≥ depthLimit then .fault ⟨.tooDeep, c.peekPos⟩ t else t, c')
      else stop ⟨.expectedValue, c.peekPos⟩

/-- Read array items up to and including `]`. -/
def readItems (fuel depth : Nat) (acc : List Tree) (first : Bool) (c : Cursor) :
    Partial (List Tree) :=
  match fuel with
  | 0 => ((Tree.broken ⟨.tooDeep, c.peekPos⟩ c.here :: acc).reverse, none)
  | fuel + 1 =>
    let c := c.skipWs
    let stop (e : SyntaxError) : Partial (List Tree) := ((Tree.broken e c.here :: acc).reverse, none)
    match c.peek with
    | none => stop ⟨.eofList, c.peekPos⟩
    | some ']' => (acc.reverse, some c.next)
    | some ch =>
      let start : Except SyntaxError Cursor :=
        if first then .ok c
        else if ch = ',' then
          let c' := c.next.skipWs
          if c'.peek = some ']' then .error ⟨.trailingComma, c'.peekPos⟩ else .ok c'
        else .error ⟨.expectedListCommaOrEnd, c.peekPos⟩
      match start with
      | .error e => stop e
      | .ok c' =>
        match readValue fuel depth c' with
        | (t, some c'') => readItems fuel depth (t :: acc) false c''
        | (t, none) => ((t :: acc).reverse, none)

/-- Read object members up to and including `}`. -/
def readMembers (fuel depth : Nat) (acc : List (String × Pos × Tree)) (first : Bool)
    (c : Cursor) : Partial (List (String × Pos × Tree)) :=
  match fuel with
  | 0 => ((("", c.here, Tree.broken ⟨.tooDeep, c.peekPos⟩ c.here) :: acc).reverse, none)
  | fuel + 1 =>
    let c := c.skipWs
    let stopAt (key : String) (at_ : Pos) (e : SyntaxError) : Partial (List (String × Pos × Tree)) :=
      (((key, at_, Tree.broken e at_) :: acc).reverse, none)
    match c.peek with
    | none => stopAt "" c.here ⟨.eofObject, c.peekPos⟩
    | some '}' => (acc.reverse, some c.next)
    | some ch =>
      let start : Except SyntaxError Cursor :=
        if first then .ok c
        else if ch = ',' then .ok c.next.skipWs
        else .error ⟨.expectedObjectCommaOrEnd, c.peekPos⟩
      match start with
      | .error e => stopAt "" c.here e
      | .ok c' =>
        match c'.peek with
        | none => stopAt "" c'.here ⟨.eofValue, c'.peekPos⟩
        | some '}' => stopAt "" c'.here ⟨.trailingComma, c'.peekPos⟩
        | some '"' =>
          match readStrictString c'.next with
          | .error e => stopAt "" c'.here e
          | .ok (key, c2) =>
            let keyEnd := c2.here
            let c3 := c2.skipWs
            match c3.peek with
            | none => stopAt key keyEnd ⟨.eofObject, c3.peekPos⟩
            | some ':' =>
              match readValue fuel depth c3.next with
              | (t, some c4) => readMembers fuel depth ((key, keyEnd, t) :: acc) false c4
              | (t, none) => (((key, keyEnd, t) :: acc).reverse, none)
            | some _ => stopAt key keyEnd ⟨.expectedColon, c3.peekPos⟩
        | some _ => stopAt "" c'.here ⟨.keyNotString, c'.peekPos⟩

end

/-- Read a whole text as one value: the tree, and the error for what follows it when more than
blanks do. -/
def readDocument (text : String) : Tree × Option SyntaxError :=
  let c : Cursor := ⟨text.toList, ⟨1, 0⟩⟩
  match readValue (text.length + 2) 0 c with
  | (t, none) => (t, none)
  | (t, some c') =>
    let c'' := c'.skipWs
    match c''.peek with
    | none => (t, none)
    | some _ => (t, some ⟨.trailingCharacters, c''.peekPos⟩)

/-- Read a whole text as one value, strictly: the first error in the order of the text. -/
def parseTree (text : String) : Except SyntaxError Tree :=
  let (t, trailing) := readDocument text
  match t.firstError?, trailing with
  | some e, _ => .error e
  | none, some e => .error e
  | none, none => .ok t

/-- Read a whole text as one value, dropping positions. -/
def parse (text : String) : Except SyntaxError Json :=
  (parseTree text).map Tree.toJson

end Fanout.Json
