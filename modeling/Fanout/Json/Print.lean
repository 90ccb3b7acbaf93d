import Fanout.Json.Basic
import Fanout.Decimal.Text

/-!
# Writing JSON

Compact and indented text of a `Json` value. Strings are written raw: only the quote, the
backslash and the control characters below U+0020 are escaped, the usual five by their short
forms and the rest as `\u00XX` with lower-case hex digits. Non-finite floats are written `null`.
-/

namespace Fanout

/-- The text of a number. -/
def Number.render : Number → String
  | .nat n => Decimal.digitString n
  | .neg i => "-" ++ Decimal.digitString i.natAbs
  | .float x =>
    match Decimal.Binary.ofFloat x with
    | .finite .. => Decimal.render Decimal.FloatStyle.report x
    | _ => "null"

namespace Json

/-- The hex digit of a value below sixteen, lower case. -/
def hexDigit (n : Nat) : Char :=
  if n < 10 then Char.ofNat (48 + n) else Char.ofNat (87 + n)

/-- The escaped form of one character inside a JSON string. -/
def escapeChar (c : Char) : List Char :=
  if c = '"' then ['\\', '"']
  else if c = '\\' then ['\\', '\\']
  else if c = '\n' then ['\\', 'n']
  else if c = '\t' then ['\\', 't']
  else if c = '\r' then ['\\', 'r']
  else if c.toNat = 8 then ['\\', 'b']
  else if c.toNat = 12 then ['\\', 'f']
  else if c.toNat < 32 then ['\\', 'u', '0', '0', hexDigit (c.toNat / 16), hexDigit (c.toNat % 16)]
  else [c]

/-- A string in quotes with the characters that need it escaped. -/
def quote (s : String) : String :=
  String.ofList ('"' :: (s.toList.flatMap escapeChar ++ ['"']))


mutual
/-- Compact text: no blank anywhere, members in their stored order. -/
def render : Json → String
  | .null => "null"
  | .bool b => if b then "true" else "false"
  | .num n => n.render
  | .str s => quote s
  | .arr items => "[" ++ renderItems items ++ "]"
  | .obj members => "\x7b" ++ renderMembers members ++ "\x7d"

/-- Array items separated by commas. -/
def renderItems : List Json → String
  | [] => ""
  | [x] => render x
  | x :: xs => render x ++ "," ++ renderItems xs

/-- Object members separated by commas. -/
def renderMembers : List (String × Json) → String
  | [] => ""
  | [(k, v)] => quote k ++ ":" ++ render v
  | (k, v) :: ms => quote k ++ ":" ++ render v ++ "," ++ renderMembers ms
end

mutual
/-- Indented text with two blanks a level, a blank after each colon, and empty containers
written `[]` and `{}`. -/
def pretty (indent : Nat) : Json → String
  | .arr [] => "[]"
  | .obj [] => "\x7b\x7d"
  | .arr items => "[\n" ++ prettyItems (indent + 2) items ++ "\n" ++ Decimal.padding indent ' ' ++ "]"
  | .obj members =>
    "\x7b\n" ++ prettyMembers (indent + 2) members ++ "\n" ++ Decimal.padding indent ' ' ++ "\x7d"
  | other => render other

/-- Indented array items, one a line. -/
def prettyItems (indent : Nat) : List Json → String
  | [] => ""
  | [x] => Decimal.padding indent ' ' ++ pretty indent x
  | x :: xs => Decimal.padding indent ' ' ++ pretty indent x ++ ",\n" ++ prettyItems indent xs

/-- Indented object members, one a line. -/
def prettyMembers (indent : Nat) : List (String × Json) → String
  | [] => ""
  | [(k, v)] => Decimal.padding indent ' ' ++ quote k ++ ": " ++ pretty indent v
  | (k, v) :: ms =>
    Decimal.padding indent ' ' ++ quote k ++ ": " ++ pretty indent v ++ ",\n" ++ prettyMembers indent ms
end

end Json

end Fanout
