import Fanout.Posix.Syntax

/-!
# Reading shell tokens

The shell reads its input token by token: words (with their quoting and expansions), the
operators `; & && || | ( ) ;;` and the redirection operators, newlines and the end of the
input. A `#` at the start of a word begins a comment that runs to the end of the line; a
backslash before a newline joins the two lines. The bodies of here-documents are read at the
newline that ends the line they were announced on.

Every reader takes a fuel argument no smaller than the input's length; each step consumes at
least one character, so the fuel never runs out first.
-/

namespace Fanout.Posix

/-- A syntax error, with the line it was found on. -/
structure SyntaxError where
  line : Nat
  message : String
  deriving Inhabited, Repr, BEq

/-- A token. -/
inductive Tok where
  | word (w : Word)
  | op (s : String)
  /-- A number written right before a redirection operator. -/
  | ioNum (n : Nat)
  | newline
  | eof
  deriving Inhabited, Repr, BEq

/-- The state of the reader: the input still to read, the line it is on, the here-documents
announced on this line, and the bodies read so far by number. -/
structure Lexer where
  cs : List Char
  line : Nat := 1
  pending : List (Nat × String × Bool) := []
  bodies : List (Nat × String) := []
  nextBody : Nat := 0
  /-- The aliases in force, and those being replaced at the current command word. -/
  aliases : List (String × String) := []
  aliasSeen : List String := []
  deriving Inhabited

/-- Add text to a reversed list of parts, joining it to the last part when the quoting agrees. -/
def pushText (acc : List Part) (s : String) (q : Bool) : List Part :=
  match acc with
  | .text t q2 :: rest => if q == q2 then .text (t ++ s) q :: rest else .text s q :: acc
  | _ => .text s q :: acc

/-- The number of newlines in a list of characters. -/
def newlines (cs : List Char) : Nat := cs.count '\n'

/-- Split off single-quoted text up to the closing quote. -/
def takeSingle : List Char → Option (List Char × List Char)
  | [] => none
  | '\'' :: rest => some ([], rest)
  | c :: rest => (takeSingle rest).map fun (a, r) => (c :: a, r)

/-- Split off double-quoted text up to the closing quote, keeping it as written. -/
def takeDouble : List Char → Option (List Char × List Char)
  | [] => none
  | '"' :: rest => some ([], rest)
  | '\\' :: c :: rest => (takeDouble rest).map fun (a, r) => ('\\' :: c :: a, r)
  | c :: rest => (takeDouble rest).map fun (a, r) => (c :: a, r)

/-- Split off backquoted text up to the closing backquote, keeping it as written. -/
def takeBack : List Char → Option (List Char × List Char)
  | [] => none
  | '`' :: rest => some ([], rest)
  | '\\' :: c :: rest => (takeBack rest).map fun (a, r) => ('\\' :: c :: a, r)
  | c :: rest => (takeBack rest).map fun (a, r) => (c :: a, r)

/-- Split off the text before the bracket `close` that matches an opening one already read,
skipping quoted text and nested pairs of `open`/`close`. -/
def takeClosing (openC close : Char) : Nat → Nat → List Char → Option (List Char × List Char)
  | 0, _, _ => none
  | _ + 1, _, [] => none
  | fuel + 1, depth, c :: rest =>
    if c == close then
      if depth == 0 then some ([], rest)
      else (takeClosing openC close fuel (depth - 1) rest).map fun (a, r) => (c :: a, r)
    else if c == openC then
      (takeClosing openC close fuel (depth + 1) rest).map fun (a, r) => (c :: a, r)
    else if c == '\'' then
      match takeSingle rest with
      | some (q, r) =>
        (takeClosing openC close fuel depth r).map fun (a, r2) => ('\'' :: q ++ ['\''] ++ a, r2)
      | none => none
    else if c == '"' then
      match takeDouble rest with
      | some (q, r) =>
        (takeClosing openC close fuel depth r).map fun (a, r2) => ('"' :: q ++ ['"'] ++ a, r2)
      | none => none
    else if c == '\\' then
      match rest with
      | d :: r => (takeClosing openC close fuel depth r).map fun (a, r2) => (c :: d :: a, r2)
      | [] => none
    else (takeClosing openC close fuel depth rest).map fun (a, r) => (c :: a, r)

/-- Split off the text of `$((…))` up to the `))` that closes it; a `)` that closes no `(` and
is not followed by another is kept as text. -/
def takeArith : Nat → Nat → List Char → Option (List Char × List Char)
  | 0, _, _ => none
  | _ + 1, _, [] => none
  | fuel + 1, depth, c :: rest =>
    if c == ')' then
      if depth == 0 then
        match rest with
        | ')' :: r => some ([], r)
        | _ => (takeArith fuel 0 rest).map fun (a, r) => (c :: a, r)
      else (takeArith fuel (depth - 1) rest).map fun (a, r) => (c :: a, r)
    else if c == '(' then (takeArith fuel (depth + 1) rest).map fun (a, r) => (c :: a, r)
    else (takeArith fuel depth rest).map fun (a, r) => (c :: a, r)

/-- The command text inside backquotes: a backslash before `$`, a backquote or a backslash (and
before a double quote inside double quotes) is dropped. -/
def unBackquote (inDouble : Bool) : List Char → List Char
  | [] => []
  | '\\' :: c :: rest =>
    if c == '$' || c == '`' || c == '\\' || (inDouble && c == '"') then c :: unBackquote inDouble rest
    else '\\' :: c :: unBackquote inDouble rest
  | c :: rest => c :: unBackquote inDouble rest

/-- The characters that may follow `$` as a one-character special parameter. -/
def isSpecialParam (c : Char) : Bool := "@*#?-$!".toList.contains c

/-- Split a name off the front. -/
def takeName (cs : List Char) : List Char × List Char :=
  (cs.takeWhile fun c => c.isAlphanum || c == '_', cs.dropWhile fun c => c.isAlphanum || c == '_')

/-- The operators that may follow a parameter inside braces, longest first. -/
def paramOps : List String := [":-", ":=", ":+", ":?", "%%", "##", "-", "=", "+", "?", "%", "#"]

/-- Read the inside of `${…}`; what names no expansion is kept as `invalid`, an error only when
it is expanded. -/
def braced (quoted : Bool) (body : List Char) : Part :=
  let bad : Part := .invalid (String.ofList body) quoted
  let nameOf (cs : List Char) : Option (String × List Char) :=
    match cs with
    | c :: rest =>
      if c.isAlpha || c == '_' then
        let (n, r) := takeName cs
        some (String.ofList n, r)
      else if c.isDigit then
        some (String.ofList (cs.takeWhile Char.isDigit), cs.dropWhile Char.isDigit)
      else if isSpecialParam c || c == '0' then some (String.singleton c, rest)
      else none
    | [] => none
  match body with
  | '#' :: rest@(_ :: _) =>
    match nameOf rest with
    | some (n, []) => .length n quoted
    | _ =>
      match nameOf body with
      | some (n, r) =>
        match paramOps.find? (fun op => op.toList.isPrefixOf r) with
        | some op => .param n op (String.ofList (r.drop op.length)) quoted
        | none => bad
      | none => bad
  | _ =>
    match nameOf body with
    | some (n, []) => .param n "" "" quoted
    | some (n, r) =>
      match paramOps.find? (fun op => op.toList.isPrefixOf r) with
      | some op => .param n op (String.ofList (r.drop op.length)) quoted
      | none => bad
    | none => bad

/-- Whether the text starts with the word `w` standing alone. -/
def startsWithWord (w : String) (cs : List Char) : Bool :=
  w.toList.isPrefixOf cs &&
    match cs.drop w.length with
    | [] => true
    | c :: _ => c == ' ' || c == '\t' || c == '\n' || ";&|()<>".toList.contains c

/-- Split off the commands of `$(…)` up to the `)` that closes it, where a `)` that ends a
pattern of a `case` inside does not count; none when no `)` closes it that way. -/
def takeCommands : Nat → Nat → Nat → Bool → List Char → Option (List Char × List Char)
  | 0, _, _, _, _ => none
  | _ + 1, _, _, _, [] => none
  | fuel + 1, depth, cases, start, c :: rest =>
    let keep (depth cases : Nat) (r : List Char) (taken : List Char) :=
      (takeCommands fuel depth cases false r).map fun (a, r2) => (taken ++ a, r2)
    let blank := c == ' ' || c == '\t' || c == '\n' || ";&|(".toList.contains c
    if start && startsWithWord "case" (c :: rest) then keep depth (cases + 1) (rest.drop 3) (c :: rest.take 3)
    else if start && startsWithWord "esac" (c :: rest) then keep depth (cases - 1) (rest.drop 3) (c :: rest.take 3)
    else if c == ')' then
      if depth == 0 then
        if cases == 0 then some ([], rest)
        else (takeCommands fuel depth cases true rest).map fun (a, r) => (c :: a, r)
      else (takeCommands fuel (depth - 1) cases true rest).map fun (a, r) => (c :: a, r)
    else if c == '(' then (takeCommands fuel (depth + 1) cases true rest).map fun (a, r) => (c :: a, r)
    else if c == '\'' then
      match takeSingle rest with
      | some (q, r) => keep depth cases r ('\'' :: q ++ ['\''])
      | none => none
    else if c == '"' then
      match takeDouble rest with
      | some (q, r) => keep depth cases r ('"' :: q ++ ['"'])
      | none => none
    else if c == '\\' then
      match rest with
      | d :: r => keep depth cases r [c, d]
      | [] => none
    else (takeCommands fuel depth cases blank rest).map fun (a, r) => (c :: a, r)

/-- The commands of `$(…)` after its `(`, and the rest of the input. -/
def takeSubstitution (rest : List Char) : Option (List Char × List Char) :=
  match takeCommands (rest.length + 1) 0 0 true rest with
  | some r => some r
  | none => takeClosing '(' ')' (rest.length + 1) 0 rest

/-- Read what follows a `$`: the part and the rest of the input, or `none` when the `$` is
plain text. -/
def dollar (quoted : Bool) (cs : List Char) (line : Nat) :
    Except SyntaxError (Option Part × List Char) :=
  match cs with
  | '{' :: rest =>
    match takeClosing '{' '}' (rest.length + 1) 0 rest with
    | some (body, r) => .ok (some (braced quoted body), r)
    | none => .error ⟨line, "Missing '\x7d'"⟩
  | '(' :: '(' :: rest =>
    match takeArith (rest.length + 1) 0 rest with
    | some (body, r) => .ok (some (.arith (String.ofList body) quoted), r)
    | none => .error ⟨line + newlines cs, "Missing '))'"⟩
  | '(' :: rest =>
    match takeSubstitution rest with
    | some (body, r) => .ok (some (.subst (String.ofList body) quoted), r)
    | none => .error ⟨line + newlines cs, "end of file unexpected (expecting \")\")"⟩
  | c :: rest =>
    if c.isAlpha || c == '_' then
      let (n, r) := takeName cs
      .ok (some (.param (String.ofList n) "" "" quoted), r)
    else if c.isDigit || isSpecialParam c then .ok (some (.param (String.singleton c) "" "" quoted), rest)
    else .ok (none, cs)
  | [] => .ok (none, cs)

/-- Read double-quoted text after its opening quote: the parts and the rest of the input. -/
def doubleParts : Nat → List Part → List Char → Nat → Except SyntaxError (List Part × List Char × Nat)
  | 0, _, _, line => .error ⟨line, "Unterminated quoted string"⟩
  | _ + 1, _, [], line => .error ⟨line, "Unterminated quoted string"⟩
  | fuel + 1, acc, c :: rest, line =>
    if c == '"' then .ok (acc, rest, line)
    else if c == '\\' then
      match rest with
      | '\n' :: r => doubleParts fuel acc r (line + 1)
      | d :: r =>
        if d == '$' || d == '`' || d == '"' || d == '\\' then doubleParts fuel (pushText acc (String.singleton d) true) r line
        else doubleParts fuel (pushText acc (String.ofList ['\\', d]) true) r line
      | [] => .error ⟨line, "Unterminated quoted string"⟩
    else if c == '$' then
      match dollar true rest line with
      | .ok (some p, r) => doubleParts fuel (p :: acc) r (line + newlines (rest.take (rest.length - r.length)))
      | .ok (none, r) => doubleParts fuel (pushText acc "$" true) r line
      | .error e => .error e
    else if c == '`' then
      match takeBack rest with
      | some (body, r) =>
        doubleParts fuel (.subst (String.ofList (unBackquote true body)) true :: acc) r (line + newlines body)
      | none => .error ⟨line + newlines rest, "EOF in backquote substitution"⟩
    else doubleParts fuel (pushText acc (String.singleton c) true) rest (if c == '\n' then line + 1 else line)

/-- Whether a character ends an unquoted word. -/
def endsWord (c : Char) : Bool :=
  c == ' ' || c == '\t' || c == '\n' || ";&|<>()".toList.contains c

/-- Read an unquoted word: its parts (reversed) and the rest of the input. -/
def wordParts : Nat → List Part → List Char → Nat → Except SyntaxError (List Part × List Char × Nat)
  | 0, acc, cs, line => .ok (acc, cs, line)
  | _ + 1, acc, [], line => .ok (acc, [], line)
  | fuel + 1, acc, c :: rest, line =>
    if endsWord c then .ok (acc, c :: rest, line)
    else if c == '\\' then
      match rest with
      | '\n' :: r => wordParts fuel acc r (line + 1)
      | d :: r => wordParts fuel (pushText acc (String.singleton d) true) r line
      | [] => .ok (pushText acc "\\" false, [], line)
    else if c == '\'' then
      match takeSingle rest with
      | some (q, r) => wordParts fuel (pushText acc (String.ofList q) true) r (line + newlines q)
      | none => .error ⟨line + newlines rest, "Unterminated quoted string"⟩
    else if c == '"' then
      match doubleParts (rest.length + 1) (pushText acc "" true) rest line with
      | .ok (acc2, r, line2) => wordParts fuel acc2 r line2
      | .error e => .error e
    else if c == '$' then
      match dollar false rest line with
      | .ok (some p, r) => wordParts fuel (p :: acc) r (line + newlines (rest.take (rest.length - r.length)))
      | .ok (none, r) => wordParts fuel (pushText acc "$" false) r line
      | .error e => .error e
    else if c == '`' then
      match takeBack rest with
      | some (body, r) =>
        wordParts fuel (.subst (String.ofList (unBackquote false body)) false :: acc) r (line + newlines body)
      | none => .error ⟨line + newlines rest, "EOF in backquote substitution"⟩
    else wordParts fuel (pushText acc (String.singleton c) false) rest line

/-- The name after a `~` that starts a word, when the `~` is a tilde prefix: the characters up
to the first `/` or the end of the word, none of them quoted or special. -/
def tildePrefix (cs : List Char) : Option (String × List Char) :=
  match cs with
  | '~' :: rest =>
    let user := rest.takeWhile fun c => c.isAlphanum || c == '_' || c == '-' || c == '.'
    match rest.drop user.length with
    | [] => some (String.ofList user, [])
    | c :: r => if c == '/' || endsWord c then some (String.ofList user, c :: r) else none
  | _ => none

/-- Read a word that starts the input; a leading `~` is a tilde prefix. -/
def readWord (cs : List Char) (line : Nat) : Except SyntaxError (Word × List Char × Nat) := do
  let (lead, cs) := match tildePrefix cs with
    | some (user, r) => ([Part.tilde user], r)
    | none => ([], cs)
  let (acc, r, line2) ← wordParts (cs.length + 1) lead cs line
  pure (acc.reverse, r, line2)

/-- How text read by `looseParts` is quoted: the word after a parameter operator outside or
inside double quotes, or the body of a here-document (and the text of an arithmetic
expression). -/
inductive LooseMode where
  | arg
  | quotedArg
  | document
  deriving Inhabited, Repr, BEq

/-- Read text in which blanks are plain: only expansions, backslashes and, for `arg`, quotes
act. The parts are returned in order. -/
def looseParts (mode : LooseMode) : Nat → List Part → List Char → List Part
  | 0, acc, _ => acc.reverse
  | _ + 1, acc, [] => acc.reverse
  | fuel + 1, acc, c :: rest =>
    let q := mode != .arg
    if c == '\\' then
      match rest with
      | d :: r =>
        if mode == .arg then looseParts mode fuel (pushText acc (String.singleton d) true) r
        else if d == '\n' then looseParts mode fuel acc r
        else if d == '$' || d == '`' || d == '\\' || (mode == .quotedArg && d == '"') then
          looseParts mode fuel (pushText acc (String.singleton d) true) r
        else looseParts mode fuel (pushText acc (String.ofList ['\\', d]) true) r
      | [] => looseParts mode fuel (pushText acc "\\" q) []
    else if c == '\'' && mode == .arg then
      match takeSingle rest with
      | some (t, r) => looseParts mode fuel (pushText acc (String.ofList t) true) r
      | none => looseParts mode fuel (pushText acc "'" false) rest
    else if c == '"' && mode == .arg then
      match doubleParts (rest.length + 1) (pushText acc "" true) rest 0 with
      | .ok (acc2, r, _) => looseParts mode fuel acc2 r
      | .error _ => looseParts mode fuel (pushText acc "\"" false) rest
    else if c == '"' && mode == .quotedArg then looseParts mode fuel acc rest
    else if c == '$' then
      match dollar q rest 0 with
      | .ok (some p, r) => looseParts mode fuel (p :: acc) r
      | _ => looseParts mode fuel (pushText acc "$" q) rest
    else if c == '`' then
      match takeBack rest with
      | some (body, r) => looseParts mode fuel (.subst (String.ofList (unBackquote (mode != .arg) body)) q :: acc) r
      | none => looseParts mode fuel (pushText acc "`" q) rest
    else looseParts mode fuel (pushText acc (String.singleton c) q) rest

/-- The operators, longest first. -/
def operators : List String :=
  ["&&", "||", ";;", "<<-", "<<", "<&", "<>", ">>", ">&", ">|", ";", "&", "|", "(", ")", "<", ">"]

/-- Whether an operator is a redirection. -/
def isRedirOp (s : String) : Bool := ["<<-", "<<", "<&", "<>", ">>", ">&", ">|", "<", ">"].contains s

/-- Read the lines of a here-document's body up to the line that is its delimiter; with
`strip`, leading tabs are removed from every line. A last line the text ends without a newline
is kept as it is. -/
def readBody (delim : String) (strip : Bool) : Nat → List Char → Nat → String → String × List Char × Nat
  | 0, cs, line, acc => (acc, cs, line)
  | _ + 1, [], line, acc => (acc, [], line)
  | fuel + 1, cs, line, acc =>
    let l := cs.takeWhile (· != '\n')
    let rest := (cs.dropWhile (· != '\n')).drop 1
    let l2 := if strip then l.dropWhile (· == '\t') else l
    let ended := (cs.dropWhile (· != '\n')).isEmpty
    if String.ofList l2 == delim then (acc, rest, line + 1)
    else if ended then (acc ++ String.ofList l2, [], line)
    else readBody delim strip fuel rest (line + 1) (acc ++ String.ofList l2 ++ "\n")

/-- Read the bodies of the here-documents announced on the line just ended. -/
def Lexer.readBodies (lx : Lexer) : Lexer :=
  let step (lx : Lexer) (p : Nat × String × Bool) : Lexer :=
    let (n, delim, strip) := p
    let (body, rest, line) := readBody delim strip (lx.cs.length + 1) lx.cs lx.line ""
    { lx with cs := rest, line := line, bodies := lx.bodies ++ [(n, body)] }
  let lx2 := lx.pending.foldl step lx
  { lx2 with pending := [] }

/-- Announce a here-document with this delimiter; its body is read at the end of the line. -/
def Lexer.announce (lx : Lexer) (delim : String) (strip : Bool) : Nat × Lexer :=
  (lx.nextBody, { lx with pending := lx.pending ++ [(lx.nextBody, delim, strip)], nextBody := lx.nextBody + 1 })

/-- Skip blanks, joined lines and a comment. -/
def skipBlank : Nat → List Char → Nat → List Char × Nat
  | 0, cs, line => (cs, line)
  | fuel + 1, cs, line =>
    match cs with
    | ' ' :: r => skipBlank fuel r line
    | '\t' :: r => skipBlank fuel r line
    | '\\' :: '\n' :: r => skipBlank fuel r (line + 1)
    | '#' :: r => (r.dropWhile (· != '\n'), line)
    | _ => (cs, line)

/-- Read the next token. -/
def Lexer.next (lx : Lexer) : Except SyntaxError (Tok × Lexer) :=
  let (cs, line) := skipBlank (lx.cs.length + 1) lx.cs lx.line
  let lx := { lx with cs := cs, line := line }
  match cs with
  | [] => .ok (.eof, lx)
  | '\n' :: rest => .ok (.newline, Lexer.readBodies { lx with cs := rest, line := line + 1 })
  | c :: _ =>
    match operators.find? (fun op => op.toList.isPrefixOf cs) with
    | some op => .ok (.op op, { lx with cs := cs.drop op.length })
    | none =>
      if c.isDigit then
        match cs.drop 1 with
        | '<' :: _ => .ok (.ioNum (c.toNat - '0'.toNat), { lx with cs := cs.drop 1 })
        | '>' :: _ => .ok (.ioNum (c.toNat - '0'.toNat), { lx with cs := cs.drop 1 })
        | _ =>
          match readWord cs line with
          | .ok (w, r, line2) => .ok (.word w, { lx with cs := r, line := line2 })
          | .error e => .error e
      else
        match readWord cs line with
        | .ok (w, r, line2) => .ok (.word w, { lx with cs := r, line := line2 })
        | .error e => .error e

end Fanout.Posix
