/-!
# Quoting words for a POSIX shell

`quote s` is a text that a POSIX shell reads back as the single word `s`. The text is cut into
chunks, each written the cheapest way that covers it:

* bare, when every character is a letter, a digit or one of `+ - . / : @ ] _`;
* in single quotes, when it holds no `'`, no backslash and no `^` (a `^` is allowed only as
  the first character of the chunk, since some shells treat it specially elsewhere);
* in double quotes, with `"` and backslashes escaped, when it holds no `$`, backquote, `!` or
  `^`.

A chunk is as long as one style covers it; the next chunk starts where none does. The empty
word is `''`. A word with a NUL character cannot be passed to a program and has no quoted form.
-/

namespace Fanout.Shell

/-- Whether `c` may stand bare in a word. -/
def bareOk (c : Char) : Bool :=
  c.isAlphanum || c == '+' || c == '-' || c == '.' || c == '/' || c == ':' || c == '@' ||
    c == ']' || c == '_'

/-- Whether `c` may stand inside single quotes (past the first character). -/
def singleOk (c : Char) : Bool := c != '\'' && c != '^' && c != '\\'

/-- Whether `c` may stand inside double quotes. -/
def doubleOk (c : Char) : Bool := c != '`' && c != '$' && c != '!' && c != '^'

/-- The quoting styles still open to a chunk. -/
structure Styles where
  bare : Bool
  single : Bool
  double : Bool
  deriving DecidableEq, Repr

/-- The styles that also cover `c`. -/
def Styles.admit (s : Styles) (c : Char) : Styles :=
  ⟨s.bare && bareOk c, s.single && singleOk c, s.double && doubleOk c⟩

/-- Some style is still open. -/
def Styles.any (s : Styles) : Bool := s.bare || s.single || s.double

/-- The styles of a chunk that starts with `c`: a leading `^` is written in single quotes. -/
def Styles.start (c : Char) : Styles :=
  if c == '^' then ⟨false, true, false⟩ else Styles.admit ⟨true, true, true⟩ c

/-- Write one chunk in the cheapest of its open styles. -/
def writeChunk (s : Styles) (chunk : List Char) : List Char :=
  if s.bare then chunk
  else if s.single then '\'' :: chunk ++ ['\'']
  else
    '"' :: chunk.flatMap (fun c =>
      if c == '$' || c == '`' || c == '"' || c == '\\' then ['\\', c] else [c]) ++ ['"']

/-- Cut the characters into chunks, given the chunk in progress (reversed) and its styles. -/
def chunks : List Char → List Char → Styles → List (Styles × List Char)
  | [], [], _ => []
  | [], cur, s => [(s, cur.reverse)]
  | c :: cs, [], _ => chunks cs [c] (Styles.start c)
  | c :: cs, cur, s =>
    let s2 := s.admit c
    if s2.any then chunks cs (c :: cur) s2
    else (s, cur.reverse) :: chunks cs [c] (Styles.start c)

/-- The quoted text of a word without NUL characters. -/
def quoteChars (w : List Char) : List Char :=
  match w with
  | [] => ['\'', '\'']
  | _ => (chunks w [] ⟨true, true, true⟩).flatMap fun (s, ch) => writeChunk s ch

/-- The quoted text of a word, or `none` when it holds a NUL character. -/
def quote? (w : String) : Option String :=
  if w.toList.contains (Char.ofNat 0) then none else some (String.ofList (quoteChars w.toList))

/-- Words quoted and joined by single blanks, or `none` when one holds a NUL character. -/
def join? (ws : List String) : Option String :=
  (ws.mapM quote?).map (" ".intercalate ·)

theorem quote_empty : quote? "" = some "''" := by decide

end Fanout.Shell
