/-!
# Splitting a line into words

The word rules of a POSIX shell without expansions: blanks (space, tab, newline) separate
words; single quotes keep everything up to the next single quote; double quotes keep everything
up to the next unescaped double quote, where a backslash escapes only `$`, backquote, `"`,
backslash and newline; outside quotes a backslash keeps the next character, and a backslash
before a newline joins the lines. A `#` where a word would start begins a comment that runs to
the end of the line. A carriage return is an ordinary character.

An unclosed quote or a backslash at the very end leaves the line without a reading.
-/

namespace Fanout.Shell

/-- Where the reader stands. -/
inductive Lexeme where
  /-- Between words. -/
  | gap
  /-- Inside a comment. -/
  | comment
  /-- Inside an unquoted part of a word. -/
  | bare
  /-- Right after a backslash in an unquoted part. -/
  | bareEscape
  /-- Inside single quotes. -/
  | single
  /-- Inside double quotes. -/
  | double
  /-- Right after a backslash inside double quotes. -/
  | doubleEscape
  deriving DecidableEq, Repr

/-- A blank that separates words. -/
def isSeparator (c : Char) : Bool := c == ' ' || c == '\t' || c == '\n'

/-- Read the rest of a line in state `st`, with the word in progress (reversed) and the words
read so far (reversed). -/
def readWords : Lexeme → List Char → List Char → List String → Option (List String)
  | .gap, [], _, done => some done.reverse
  | .comment, [], _, done => some done.reverse
  | .bare, [], cur, done => some (String.ofList cur.reverse :: done).reverse
  | .bareEscape, [], _, _ => none
  | .single, [], _, _ => none
  | .double, [], _, _ => none
  | .doubleEscape, [], _, _ => none
  | .gap, c :: cs, cur, done =>
    if isSeparator c then readWords .gap cs cur done
    else if c == '#' then readWords .comment cs cur done
    else readWords .bare (c :: cs) [] done
  | .comment, c :: cs, cur, done =>
    if c == '\n' then readWords .gap cs cur done else readWords .comment cs cur done
  | .bare, c :: cs, cur, done =>
    if isSeparator c then readWords .gap cs [] (String.ofList cur.reverse :: done)
    else if c == '"' then readWords .double cs cur done
    else if c == '\'' then readWords .single cs cur done
    else if c == '\\' then readWords .bareEscape cs cur done
    else readWords .bare cs (c :: cur) done
  | .bareEscape, c :: cs, cur, done =>
    if c == '\n' then readWords .bare cs cur done else readWords .bare cs (c :: cur) done
  | .single, c :: cs, cur, done =>
    if c == '\'' then readWords .bare cs cur done else readWords .single cs (c :: cur) done
  | .double, c :: cs, cur, done =>
    if c == '\\' then readWords .doubleEscape cs cur done
    else if c == '"' then readWords .bare cs cur done
    else readWords .double cs (c :: cur) done
  | .doubleEscape, c :: cs, cur, done =>
    if c == '$' || c == '`' || c == '"' || c == '\\' then readWords .double cs (c :: cur) done
    else if c == '\n' then readWords .double cs cur done
    else readWords .double cs (c :: '\\' :: cur) done
termination_by st cs => (cs.length, if st = .gap then 1 else 0)

/-- The words of a line, or `none` for an unclosed quote or a trailing backslash. -/
def split? (line : String) : Option (List String) :=
  readWords .gap line.toList [] []

theorem split_empty : split? "" = some [] := by
  simp [split?, readWords]

end Fanout.Shell
