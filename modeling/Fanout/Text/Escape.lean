import Fanout.Text.Printable

/-!
# Quoted text with visible escapes

`quoted s` is `s` between double quotes with the characters that do not print shown as escapes:
`\t`, `\r`, `\n`, `\0`, a backslash and a quote by their short forms, and every other character
that does not print or that extends the one before it as `\u{hex}` with lower-case digits and
no leading zeros. This is the text of a string inside error messages and log fields.
-/

namespace Fanout.Text

/-- Lower-case hex digits of `n`, without leading zeros (`0` for zero). -/
def hexText (n : Nat) : String :=
  String.ofList (Nat.toDigits 16 n)

/-- Characters written as `\u{…}`: those that do not print and those that extend the
character before them. -/
def escapedCode (n : Nat) : Bool := unprintable n || graphemeExtend n

/-- One character inside the quotes. -/
def quotedChar (c : Char) : String :=
  if c = '\t' then "\\t"
  else if c = '\r' then "\\r"
  else if c = '\n' then "\\n"
  else if c = '\\' then "\\\\"
  else if c = '"' then "\\\""
  else if c.toNat = 0 then "\\0"
  else if escapedCode c.toNat then "\\u" ++ "\x7b" ++ hexText c.toNat ++ "\x7d"
  else String.singleton c

/-- `s` in double quotes with escapes. -/
def quoted (s : String) : String :=
  "\"" ++ String.join (s.toList.map quotedChar) ++ "\""

end Fanout.Text
