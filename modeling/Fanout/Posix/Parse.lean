import Fanout.Posix.Lex

/-!
# Parsing shell commands

A recursive-descent parser over the tokens of `Lex`. The shell parses and runs its input one
complete command at a time: `parseLine` reads the commands up to the end of a line (with every
compound command that starts on it), so a syntax error further down is found only after the
lines before it have run.

Reserved words are recognised only where a command may start, and only when written without
quotes. Error texts follow the shell's own: `"fi" unexpected (expecting "then")`,
`end of file unexpected`, `newline unexpected` and so on.

Every function takes a fuel argument that bounds the depth of nesting and the length of each
list it reads; the input's length plus one is always enough, since each step reads a token.
-/

namespace Fanout.Posix

/-- The parser: a reader state that may fail with a syntax error. -/
abbrev ParseM := StateT Lexer (Except SyntaxError)

/-- The reserved words. -/
def reservedWords : List String :=
  ["!", "case", "do", "done", "elif", "else", "esac", "fi", "for", "if", "in", "then", "until",
   "while", "\x7b", "\x7d"]

/-- Reserved words that end a list rather than start a command. -/
def closingWords : List String := ["do", "done", "elif", "else", "esac", "fi", "in", "then", "\x7d"]

/-- How an error message names a token. -/
def Tok.describe : Tok → String
  | .eof => "end of file"
  | .newline => "newline"
  | .ioNum _ => "redirection"
  | .op s => if isRedirOp s then "redirection" else "\"" ++ s ++ "\""
  | .word w =>
    match w.bare? with
    | some s => if reservedWords.contains s then "\"" ++ s ++ "\"" else "word"
    | none => "word"

/-- Whether the token is the unquoted word `s`. -/
def Tok.isWord (t : Tok) (s : String) : Bool :=
  match t with
  | .word w => w.bare? == some s
  | _ => false

/-- Whether the token is the operator `s`. -/
def Tok.isOp (t : Tok) (s : String) : Bool :=
  match t with
  | .op o => o == s
  | _ => false

/-- Whether a command may start with the token. -/
def Tok.startsCommand : Tok → Bool
  | .word w =>
    match w.bare? with
    | some s => !closingWords.contains s
    | none => true
  | .op s => s == "(" || isRedirOp s
  | .ioNum _ => true
  | _ => false

/-- The next token, left unread. -/
def peek : ParseM Tok := do
  match (← get).next with
  | .ok (t, _) => pure t
  | .error e => throw e

/-- Read the next token. -/
def advance : ParseM Tok := do
  match (← get).next with
  | .ok (t, lx) => set lx; pure t
  | .error e => throw e

/-- Fail with a message at the current line. -/
def failWith {α : Type} (msg : String) : ParseM α := do
  throw ⟨(← get).line, msg⟩

/-- Read the next token and fail on it as unexpected. -/
def unexpected {α : Type} (expecting : Option String := none) : ParseM α := do
  let t ← advance
  failWith (t.describe ++ " unexpected" ++
    match expecting with
    | some e => " (expecting " ++ e ++ ")"
    | none => "")

/-- Skip newlines. -/
def skipNewlines : Nat → ParseM Unit
  | 0 => pure ()
  | n + 1 => do
    if (← peek) == .newline then
      let _ ← advance
      skipNewlines n

/-- Read the reserved word `s`, or fail. -/
def expectWord (s : String) : ParseM Unit := do
  if (← peek).isWord s then
    let _ ← advance
  else unexpected (some ("\"" ++ s ++ "\""))

/-- Read the operator `s`, or fail. -/
def expectOp (s : String) : ParseM Unit := do
  if (← peek).isOp s then
    let _ ← advance
  else unexpected (some ("\"" ++ s ++ "\""))

/-- The parts of an assignment's value whose text starts it: a leading `~` is a tilde prefix
when what follows up to a `/` (or the end) is plain text. -/
def valueParts (v : String) (rest : Word) : Word :=
  let plain := if v.isEmpty then [] else [Part.text v false]
  match tildePrefix v.toList with
  | some (user, r) =>
    if r.isEmpty && !rest.isEmpty && !(rest.head?.any fun p => match p with
        | .text t _ => t.startsWith "/"
        | _ => false) then plain ++ rest
    else [Part.tilde user] ++ (if r.isEmpty then [] else [Part.text (String.ofList r) false]) ++ rest
  | none => plain ++ rest

/-- An assignment word `name=value`: the name and the value's parts. -/
def assignment? (w : Word) : Option (String × Word) :=
  match w with
  | .text s false :: rest =>
    match s.splitOn "=" with
    | name :: v1 :: vs =>
      if isName name then some (name, valueParts ("=".intercalate (v1 :: vs)) rest)
      else none
    | _ => none
  | _ => none

/-- Replace an alias at the word that starts a command by its text: whether one was replaced.
An alias is not replaced again while its own text is read. -/
def expandAlias : ParseM Bool := do
  match ← peek with
  | .word w =>
    match w.bare? with
    | some s =>
      let lx ← get
      match lx.aliases.lookup s with
      | some v =>
        if lx.aliasSeen.contains s || reservedWords.contains s then pure false
        else
          let _ ← advance
          modify fun lx => { lx with cs := v.toList ++ lx.cs, aliasSeen := s :: lx.aliasSeen }
          pure true
      | none => pure false
    | none => pure false
  | _ => pure false

/-- What a redirection operator does. -/
def redirKind (op : String) : RedirKind :=
  match op with
  | "<" => .input
  | ">>" => .append
  | "<>" => .readWrite
  | "<&" => .dupInput
  | ">&" => .dupOutput
  | ">|" => .clobber
  | _ => .output

/-- The delimiter of a here-document: the word's text with its quotes removed. -/
def delimiterText (w : Word) : String :=
  String.join (w.map fun p => match p with
    | .text s _ => s
    | .param n _ _ _ => "$" ++ n
    | .length n _ => "$#" ++ n
    | .arith s _ => "$((" ++ s ++ "))"
    | .subst s _ => "$(" ++ s ++ ")"
    | .invalid s _ => "$\x7b" ++ s ++ "\x7d"
    | .tilde u => "~" ++ u)

/-- Read the target of a redirection whose operator was just read. -/
def redirTarget (fd : Option Nat) (op : String) : ParseM Redir := do
  match ← peek with
  | .word w =>
    let _ ← advance
    if op == "<<" || op == "<<-" then
      let (n, lx) := (← get).announce (delimiterText w) (op == "<<-")
      set lx
      pure { fd, kind := .document w.hasQuotes, target := w, body := n }
    else pure { fd, kind := redirKind op, target := w }
  | _ => unexpected

/-- Read a redirection if one comes next. -/
def redirection? : ParseM (Option Redir) := do
  match ← peek with
  | .ioNum k =>
    let _ ← advance
    match ← advance with
    | .op op => some <$> redirTarget (some k) op
    | _ => failWith "redirection unexpected"
  | .op op =>
    if isRedirOp op then
      let _ ← advance
      some <$> redirTarget none op
    else pure none
  | _ => pure none

/-- Read redirections after a compound command. -/
def redirections : Nat → List Redir → ParseM (List Redir)
  | 0, acc => pure acc
  | n + 1, acc => do
    match ← redirection? with
    | some r => redirections n (acc ++ [r])
    | none => pure acc

/-- Join a list of commands into one. -/
def seqAll : List Cmd → Cmd
  | [] => .empty
  | [c] => c
  | c :: cs => .seq c (seqAll cs)

/-- Put the last command of a list in the background. -/
def backgroundLast : List Cmd → List Cmd
  | [] => []
  | [c] => [.background c]
  | c :: cs => c :: backgroundLast cs

mutual

/-- Read a command: a compound command with its redirections, a function definition or a
simple command. -/
def command : Nat → ParseM Cmd
  | 0 => failWith "nesting too deep"
  | n + 1 => do
    if ← expandAlias then command n else
    modify fun lx => { lx with aliasSeen := [] }
    let t ← peek
    match t with
    | .word w =>
      match w.bare? with
      | some "if" => let _ ← advance; let c ← ifRest n; attachRedirs n c
      | some "while" => let _ ← advance; let c ← loopRest n false; attachRedirs n c
      | some "until" => let _ ← advance; let c ← loopRest n true; attachRedirs n c
      | some "for" => let _ ← advance; let c ← forRest n; attachRedirs n c
      | some "case" => let _ ← advance; let c ← caseRest n; attachRedirs n c
      | some "\x7b" =>
        let _ ← advance
        let body ← list n
        expectWord "\x7d"
        let rs ← redirections n []
        pure (.group body rs)
      | some s => if closingWords.contains s || s == "!" then unexpected else simple n
      | none => simple n
    | .op "(" =>
      let _ ← advance
      let body ← list n
      expectOp ")"
      let rs ← redirections n []
      pure (.subshell body rs)
    | .op s => if isRedirOp s then simple n else unexpected
    | .ioNum _ => simple n
    | _ => unexpected

/-- Attach the redirections that follow a compound command. -/
def attachRedirs : Nat → Cmd → ParseM Cmd
  | n, c => do
    let rs ← redirections n []
    match c with
    | .ifThen a b e _ => pure (.ifThen a b e rs)
    | .loop u a b _ => pure (.loop u a b rs)
    | .forIn v ws b _ => pure (.forIn v ws b rs)
    | .caseOf w arms _ => pure (.caseOf w arms rs)
    | other => pure other

/-- Read a simple command, or a function definition. -/
def simple : Nat → ParseM Cmd
  | n => do
    let line := (← get).line
    simpleItems n line [] [] []

/-- Read the assignments, words and redirections of a simple command. -/
def simpleItems : Nat → Nat → List (String × Word) → List Word → List Redir → ParseM Cmd
  | 0, line, assigns, words, redirs => pure (.simple line assigns words redirs)
  | n + 1, line, assigns, words, redirs => do
    match ← redirection? with
    | some r => simpleItems n line assigns words (redirs ++ [r])
    | none =>
      match ← peek with
      | .word w =>
        let _ ← advance
        if words.isEmpty then
          match assignment? w with
          | some a => simpleItems n line (assigns ++ [a]) words redirs
          | none =>
            if assigns.isEmpty && redirs.isEmpty && (← peek).isOp "(" then
              let _ ← advance
              expectOp ")"
              skipNewlines n
              let body ← command n
              match w.bare? with
              | some name => if isName name then pure (.function name body) else failWith "Bad function name"
              | none => failWith "Bad function name"
            else simpleItems n line assigns [w] redirs
        else simpleItems n line assigns (words ++ [w]) redirs
      | _ =>
        if assigns.isEmpty && words.isEmpty && redirs.isEmpty then unexpected
        else pure (.simple line assigns words redirs)

/-- Read a pipeline. -/
def pipeline : Nat → ParseM Cmd
  | 0 => failWith "nesting too deep"
  | n + 1 => do
    let negate ← do
      if (← peek).isWord "!" then
        let _ ← advance
        pure true
      else pure false
    let c ← command n
    let cs ← pipeRest n [c]
    match cs, negate with
    | [c], false => pure c
    | _, _ => pure (.pipeline negate cs)

/-- Read the commands after `|`s. -/
def pipeRest : Nat → List Cmd → ParseM (List Cmd)
  | 0, acc => pure acc
  | n + 1, acc => do
    if (← peek).isOp "|" then
      let _ ← advance
      skipNewlines n
      let c ← command n
      pipeRest n (acc ++ [c])
    else pure acc

/-- Read pipelines joined by `&&` and `||`. -/
def andOr : Nat → ParseM Cmd
  | 0 => failWith "nesting too deep"
  | n + 1 => do
    let c ← pipeline n
    andOrRest n c

/-- Read the rest of an `&&`/`||` chain. -/
def andOrRest : Nat → Cmd → ParseM Cmd
  | 0, c => pure c
  | n + 1, c => do
    let t ← peek
    if t.isOp "&&" then
      let _ ← advance
      skipNewlines n
      let d ← pipeline n
      andOrRest n (.andThen c d)
    else if t.isOp "||" then
      let _ ← advance
      skipNewlines n
      let d ← pipeline n
      andOrRest n (.orElse c d)
    else pure c

/-- Read a list of commands inside a compound command, up to a word or operator that cannot
start a command. -/
def list : Nat → ParseM Cmd
  | 0 => failWith "nesting too deep"
  | n + 1 => do
    skipNewlines n
    if (← peek) == .eof then pure .empty
    else
      let c ← andOr n
      let items ← listRest n [c]
      pure (seqAll items)

/-- Read the rest of a list: separators and further commands. -/
def listRest : Nat → List Cmd → ParseM (List Cmd)
  | 0, acc => pure acc
  | n + 1, acc => do
    let t ← peek
    let acc ← do
      if t.isOp "&" then pure (backgroundLast acc) else pure acc
    if t.isOp ";" || t.isOp "&" || t == .newline then
      let _ ← advance
      skipNewlines n
      if (← peek).startsCommand then
        let c ← andOr n
        listRest n (acc ++ [c])
      else pure acc
    else pure acc

/-- Read an `if` command after its `if`. -/
def ifRest : Nat → ParseM Cmd
  | 0 => failWith "nesting too deep"
  | n + 1 => do
    let cond ← list n
    expectWord "then"
    let body ← list n
    let t ← peek
    if t.isWord "elif" then
      let _ ← advance
      let rest ← ifRest n
      pure (.ifThen cond body (some rest) [])
    else if t.isWord "else" then
      let _ ← advance
      let e ← list n
      expectWord "fi"
      pure (.ifThen cond body (some e) [])
    else if t.isWord "fi" then
      let _ ← advance
      pure (.ifThen cond body none [])
    else unexpected (some "\"fi\"")

/-- Read a `while` or `until` command after its first word. -/
def loopRest : Nat → Bool → ParseM Cmd
  | n, isUntil => do
    let cond ← list n
    expectWord "do"
    let body ← list n
    expectWord "done"
    pure (.loop isUntil cond body [])

/-- Read the words of a `for` loop up to its separator. -/
def forWords : Nat → List Word → ParseM (List Word)
  | 0, acc => pure acc
  | n + 1, acc => do
    match ← peek with
    | .word w => let _ ← advance; forWords n (acc ++ [w])
    | .newline => let _ ← advance; pure acc
    | .op ";" => let _ ← advance; pure acc
    | _ => unexpected

/-- Read a `for` command after its `for`. -/
def forRest : Nat → ParseM Cmd
  | n => do
    let name ← do
      match ← advance with
      | .word w =>
        match w.bare? with
        | some s => if isName s then pure s else failWith "Bad for loop variable"
        | none => failWith "Bad for loop variable"
      | _ => failWith "Bad for loop variable"
    skipNewlines n
    let t ← peek
    let items ← do
      if t.isWord "in" then
        let _ ← advance
        let ws ← forWords n []
        pure (some ws)
      else if t.isOp ";" then
        let _ ← advance
        pure none
      else pure none
    skipNewlines n
    expectWord "do"
    let body ← list n
    expectWord "done"
    pure (.forIn name items body [])

/-- Read the patterns of a `case` arm, up to its `)`. -/
def patterns : Nat → List Word → ParseM (List Word)
  | 0, acc => pure acc
  | n + 1, acc => do
    match ← advance with
    | .word w =>
      let t ← peek
      if t.isOp "|" then
        let _ ← advance
        patterns n (acc ++ [w])
      else if t.isOp ")" then
        let _ ← advance
        pure (acc ++ [w])
      else unexpected (some "\")\"")
    | _ => failWith "word unexpected"

/-- Read the arms of a `case` command up to its `esac`. -/
def arms : Nat → List (List Word × Cmd) → ParseM (List (List Word × Cmd))
  | 0, acc => pure acc
  | n + 1, acc => do
    skipNewlines n
    let t ← peek
    if t.isWord "esac" then
      let _ ← advance
      pure acc
    else
      if t.isOp "(" then
        let _ ← advance
      let ps ← patterns n []
      skipNewlines n
      let t2 ← peek
      let body ← do
        if t2.isOp ";;" || t2.isWord "esac" then pure Cmd.empty else list n
      let t3 ← peek
      if t3.isOp ";;" then
        let _ ← advance
        arms n (acc ++ [(ps, body)])
      else if t3.isWord "esac" then
        let _ ← advance
        pure (acc ++ [(ps, body)])
      else unexpected (some "\";;\"")

/-- Read a `case` command after its `case`. -/
def caseRest : Nat → ParseM Cmd
  | n => do
    let subject ← do
      match ← advance with
      | .word w => pure w
      | _ => failWith "word unexpected"
    skipNewlines n
    expectWord "in"
    let as ← arms n []
    pure (.caseOf subject as [])

end

/-- Read the next complete command: the commands up to the end of the line, or `none` at the
end of the input. -/
def parseLine (n : Nat) : ParseM (Option Cmd) := do
  skipNewlines n
  if (← peek) == .eof then return none
  let c ← andOr n
  let items ← lineRest n [c]
  let t ← peek
  if t == .newline then
    let _ ← advance
  else if t != .eof then unexpected
  return some (seqAll items)
where
  /-- Read the rest of a line: separators and further commands on the same line. -/
  lineRest : Nat → List Cmd → ParseM (List Cmd)
    | 0, acc => pure acc
    | k + 1, acc => do
      let t ← peek
      let acc := if t.isOp "&" then backgroundLast acc else acc
      if t.isOp ";" || t.isOp "&" then
        let _ ← advance
        if (← peek).startsCommand then
          let c ← andOr n
          lineRest k (acc ++ [c])
        else pure acc
      else pure acc

/-- Parse a whole text at once: every command, or the first syntax error. -/
def parseAll (text : String) : Except SyntaxError (List Cmd) :=
  let n := 8 * (text.length + 2)
  let rec go : Nat → Lexer → Except SyntaxError (List Cmd)
    | 0, _ => .ok []
    | k + 1, lx =>
      match (parseLine n).run lx with
      | .ok (some c, lx2) => (go k lx2).map (c :: ·)
      | .ok (none, _) => .ok []
      | .error e => .error e
  go n { cs := text.toList }

end Fanout.Posix
