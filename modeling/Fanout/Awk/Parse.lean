import Fanout.Awk.Syntax

/-!
# Reading awk programs

The text is first cut into tokens: numbers, strings (with the escapes `\n`, `\t`, `\\`, `\"`,
`\/`, octal, …), regular expressions between slashes (a slash starts one where an operand
cannot end, so `a / b` divides), names, keywords, the names of built-in functions, and
operators. A backslash before a newline joins lines; `#` starts a comment.

The grammar is read by recursive descent, from the loosest operator to the tightest:
assignment, `?:`, `||`, `&&`, `in`, `~ !~`, comparisons, concatenation, `+ -`, `* / %`, unary
`! - +`, `^`, `++ --`, `$`, and the primaries. In the arguments of `print` a `>` is a
redirection unless it stands inside parentheses. A malformed program is reported as
`line N: syntax error at or near T`.
-/

namespace Fanout.Awk

open Fanout.Posix

/-- A token. -/
inductive Tok where
  | num (v : Float)
  | str (s : String)
  | ere (src : String)
  | name (s : String)
  /-- A name followed at once by `(`: a call of a function of the program. -/
  | funcName (s : String)
  | builtin (s : String)
  | kw (s : String)
  | punct (s : String)
  | newline
  | eof
  deriving Inhabited, Repr

/-- The keywords. -/
def keywords : List String :=
  ["BEGIN", "END", "function", "func", "if", "else", "while", "for", "do", "break", "continue",
   "next", "nextfile", "exit", "return", "delete", "getline", "print", "printf", "in"]

/-- The built-in functions. -/
def builtins : List String :=
  ["length", "substr", "index", "split", "sub", "gsub", "match", "sprintf", "tolower",
   "toupper", "int", "sqrt", "exp", "log", "sin", "cos", "atan2", "rand", "srand", "system",
   "close", "fflush"]

/-- The operators, longest first. -/
def punctuation : List String :=
  ["**=", "+=", "-=", "*=", "/=", "%=", "^=", "==", "<=", ">=", "!=", "++", "--", "&&", "||",
   ">>", "!~", "**", "\x7b", "\x7d", "(", ")", "[", "]", ";", ",", "+", "-", "*", "/", "%", "^", "!",
   ">", "<", "|", "?", ":", "~", "$", "="]

/-- The text of a token, for messages. -/
def Tok.text : Tok → String
  | .num v => numText "%.6g" v
  | .str s => "\"" ++ s ++ "\""
  | .ere s => "/" ++ s ++ "/"
  | .name s | .funcName s | .builtin s | .kw s | .punct s => s
  | .newline => "end of line"
  | .eof => "end of file"

/-- Whether an operand may end with the token, so that a `/` after it divides. -/
def Tok.endsOperand : Tok → Bool
  | .num _ | .str _ | .ere _ | .name _ | .builtin _ => true
  | .punct p => p == ")" || p == "]" || p == "++" || p == "--" || p == "$"
  | _ => false

/-- The value of an escape in a string after its backslash: the text it stands for and the
characters after it. -/
def stringEscape (cs : List Char) : String × List Char :=
  match cs with
  | 'n' :: r => ("\n", r)
  | 't' :: r => ("\t", r)
  | 'r' :: r => ("\r", r)
  | '\\' :: r => ("\\", r)
  | '"' :: r => ("\"", r)
  | '/' :: r => ("/", r)
  | 'a' :: r => (String.singleton (Char.ofNat 7), r)
  | 'b' :: r => (String.singleton (Char.ofNat 8), r)
  | 'f' :: r => (String.singleton (Char.ofNat 12), r)
  | 'v' :: r => (String.singleton (Char.ofNat 11), r)
  | c :: r =>
    if '0' ≤ c && c ≤ '7' then
      let ds := ((c :: r).take 3).takeWhile fun d => '0' ≤ d && d ≤ '7'
      (String.singleton (Char.ofNat (digitsValue 8 ds % 256)), (c :: r).drop ds.length)
    else ("\\" ++ String.singleton c, r)
  | [] => ("\\", [])

/-- Read a string body after its opening quote: the text and the rest after the closing quote,
or none when the line or the text ends first. -/
def lexString : Nat → List Char → String → Option (String × List Char)
  | 0, _, _ => none
  | _ + 1, [], _ => none
  | fuel + 1, c :: rest, acc =>
    if c == '"' then some (acc, rest)
    else if c == '\n' then none
    else if c == '\\' then
      match rest with
      | '\n' :: r => lexString fuel r acc
      | _ =>
        let (t, r) := stringEscape rest
        lexString fuel r (acc ++ t)
    else lexString fuel rest (acc.push c)

/-- Read a regular expression after its opening slash: the source (with `\/` made a slash) and
the rest after the closing slash. -/
def lexRegex : Nat → List Char → String → Option (String × List Char)
  | 0, _, _ => none
  | _ + 1, [], _ => none
  | fuel + 1, c :: rest, acc =>
    if c == '/' then some (acc, rest)
    else if c == '\n' then none
    else if c == '\\' then
      match rest with
      | '/' :: r => lexRegex fuel r (acc.push '/')
      | d :: r => lexRegex fuel r ((acc.push '\\').push d)
      | [] => none
    else if c == '[' then
      -- a bracket expression may hold a slash
      let body := rest.takeWhile (· != ']')
      let (first, rest2) := match rest with
        | ']' :: r => ("]", r)
        | '^' :: ']' :: r => ("^]", r)
        | _ => ("", rest)
      let body := if first.isEmpty then body else rest2.takeWhile (· != ']')
      let after := (if first.isEmpty then rest else rest2).drop body.length
      match after with
      | ']' :: r => lexRegex fuel r (acc ++ "[" ++ first ++ String.ofList body ++ "]")
      | _ => lexRegex fuel rest (acc.push '[')
    else lexRegex fuel rest (acc.push c)

/-- Cut a program into tokens, each with its line. -/
def tokenize : Nat → List Char → Nat → Option Tok → List (Tok × Nat) →
    Except String (List (Tok × Nat))
  | 0, _, line, _, acc => .ok ((.eof, line) :: acc).reverse
  | _ + 1, [], line, _, acc => .ok ((.eof, line) :: acc).reverse
  | fuel + 1, c :: rest, line, prev, acc =>
    let push (t : Tok) (r : List Char) := tokenize fuel r line (some t) ((t, line) :: acc)
    if c == ' ' || c == '\t' || c == '\r' then tokenize fuel rest line prev acc
    else if c == '\\' && rest.head? == some '\n' then tokenize fuel (rest.drop 1) (line + 1) prev acc
    else if c == '\n' then tokenize fuel rest (line + 1) (some .newline) ((.newline, line) :: acc)
    else if c == '#' then tokenize fuel (rest.dropWhile (· != '\n')) line prev acc
    else if c == '"' then
      match lexString (rest.length + 1) rest "" with
      | some (s, r) => push (.str s) r
      | none => .error ("line " ++ toString line ++ ": runaway string constant \"" ++
          String.ofList ((rest.takeWhile (· != '\n')).take 10) ++ " ...")
    else if c == '/' && !(prev.map Tok.endsOperand).getD false then
      match lexRegex (rest.length + 1) rest "" with
      | some (s, r) => push (.ere s) r
      | none => .error ("line " ++ toString line ++ ": runaway regular expression /" ++
          String.ofList ((rest.takeWhile (· != '\n')).take 10) ++ " ...")
    else if c.isDigit || (c == '.' && (rest.head?.map Char.isDigit).getD false) then
      let (v, used, _) := scanFloat .double (c :: rest)
      let used := max used 1
      push (.num (floatOf v)) ((c :: rest).drop used)
    else if c.isAlpha || c == '_' then
      let w := (c :: rest).takeWhile fun d => d.isAlphanum || d == '_'
      let r := (c :: rest).drop w.length
      let s := String.ofList w
      if keywords.contains s then push (.kw (if s == "func" then "function" else s)) r
      else if builtins.contains s then push (.builtin s) r
      else if r.head? == some '(' then push (.funcName s) r
      else push (.name s) r
    else
      match punctuation.find? fun p => p.toList.isPrefixOf (c :: rest) with
      | some p =>
        let p' := if p == "**" then "^" else if p == "**=" then "^=" else p
        push (.punct p') ((c :: rest).drop p.length)
      | none => .error ("line " ++ toString line ++ ": syntax error at or near " ++ String.singleton c)

/-! ## The parser -/

/-- The parser's state: the tokens and the place of the next one. -/
structure PState where
  toks : Array (Tok × Nat)
  pos : Nat := 0

/-- The parser. -/
abbrev P := StateT PState (Except String)

/-- The next token. -/
def peek : P Tok := do
  let st ← get
  pure ((st.toks.getD st.pos (.eof, 0)).1)

/-- The token after the next one. -/
def peek2 : P Tok := do
  let st ← get
  pure ((st.toks.getD (st.pos + 1) (.eof, 0)).1)

/-- Move past the next token. -/
def advance : P Unit := modify fun st => { st with pos := st.pos + 1 }

/-- Fail at the next token. -/
def failHere {α : Type} : P α := do
  let st ← get
  let (t, line) := st.toks.getD st.pos (.eof, 0)
  throw ("line " ++ toString line ++ ": syntax error at or near " ++ t.text)

/-- Whether the next token is the punctuation `p`. -/
def isPunct (p : String) : P Bool := do
  match ← peek with
  | .punct q => pure (p == q)
  | _ => pure false

/-- Whether the next token is the keyword `k`. -/
def isKw (k : String) : P Bool := do
  match ← peek with
  | .kw q => pure (k == q)
  | _ => pure false

/-- Take the punctuation `p`, or fail. -/
def expect (p : String) : P Unit := do
  if ← isPunct p then advance else failHere

/-- Skip newlines. -/
def skipNewlines : Nat → P Unit
  | 0 => pure ()
  | n + 1 => do
    match ← peek with
    | .newline => advance; skipNewlines n
    | _ => pure ()

/-- Skip newlines and semicolons. -/
def skipTerminators : Nat → P Unit
  | 0 => pure ()
  | n + 1 => do
    match ← peek with
    | .newline => advance; skipTerminators n
    | .punct ";" => advance; skipTerminators n
    | _ => pure ()

/-- How many tokens are left, a bound for loops over them. -/
def remaining : P Nat := do
  let st ← get
  pure (st.toks.size - st.pos + 1)

/-- Whether an expression can be assigned to. -/
def Expr.isLvalue : Expr → Bool
  | .var _ | .field _ | .index _ _ => true
  | .group e => e.isLvalue
  | _ => false

/-- The assignment operators. -/
def assignOps : List String := ["=", "+=", "-=", "*=", "/=", "%=", "^="]

/-- Whether a token can start an operand of a concatenation. -/
def Tok.startsConcat : Tok → Bool
  | .num _ | .str _ | .ere _ | .name _ | .funcName _ | .builtin _ => true
  | .punct p => p == "$" || p == "(" || p == "!" || p == "++" || p == "--" || p == "-" || p == "+"
  | .kw k => k == "getline"
  | _ => false

/-- The syntax of expressions: `noGt` when a `>` ends the expression (in `print`), `noIn`
when `in` does (the first part of `for`). -/
structure Ctx where
  noGt : Bool := false
  noIn : Bool := false

mutual

/-- An expression, assignments included. -/
def expr (c : Ctx) : Nat → P Expr
  | 0 => failHere
  | n + 1 => do
    let lhs ← ternary c n
    match ← peek with
    | .punct op =>
      if assignOps.contains op && lhs.isLvalue then
        advance
        skipNewlines 64
        let rhs ← expr c n
        pure (.assign (op.dropEnd 1).toString lhs rhs)
      else pure lhs
    | _ => pure lhs

/-- `c ? a : b`. -/
def ternary (c : Ctx) : Nat → P Expr
  | 0 => failHere
  | n + 1 => do
    let cond ← orExpr c n
    if ← isPunct "?" then
      advance
      skipNewlines 64
      let a ← expr c n
      skipNewlines 64
      expect ":"
      skipNewlines 64
      let b ← expr c n
      pure (.cond cond a b)
    else pure cond

/-- `a || b`. -/
def orExpr (c : Ctx) : Nat → P Expr
  | 0 => failHere
  | n + 1 => do
    let a ← andExpr c n
    orRest c n a

/-- The rest of a chain of `||`. -/
def orRest (c : Ctx) : Nat → Expr → P Expr
  | 0, a => pure a
  | n + 1, a => do
    if ← isPunct "||" then
      advance
      skipNewlines 64
      let b ← andExpr c n
      orRest c n (.or a b)
    else pure a

/-- `a && b`. -/
def andExpr (c : Ctx) : Nat → P Expr
  | 0 => failHere
  | n + 1 => do
    let a ← inExpr c n
    andRest c n a

/-- The rest of a chain of `&&`. -/
def andRest (c : Ctx) : Nat → Expr → P Expr
  | 0, a => pure a
  | n + 1, a => do
    if ← isPunct "&&" then
      advance
      skipNewlines 64
      let b ← inExpr c n
      andRest c n (.and a b)
    else pure a

/-- `a in arr`. -/
def inExpr (c : Ctx) : Nat → P Expr
  | 0 => failHere
  | n + 1 => do
    let a ← matchExpr c n
    inRest c n a

/-- The rest of a chain of `in`. -/
def inRest (c : Ctx) : Nat → Expr → P Expr
  | 0, a => pure a
  | n + 1, a => do
    if !c.noIn && (← isKw "in") then
      advance
      match ← peek with
      | .name arr =>
        advance
        let subs := match a with
          | .group (.call "" es) => es
          | e => [e]
        inRest c n (.member subs arr)
      | _ => failHere
    else pure a

/-- `a ~ re`, `a !~ re`. -/
def matchExpr (c : Ctx) : Nat → P Expr
  | 0 => failHere
  | n + 1 => do
    let a ← relExpr c n
    matchRest c n a

/-- The rest of a chain of matches. -/
def matchRest (c : Ctx) : Nat → Expr → P Expr
  | 0, a => pure a
  | n + 1, a => do
    match ← peek with
    | .punct "~" =>
      advance
      let b ← relExpr c n
      matchRest c n (.matches false a b)
    | .punct "!~" =>
      advance
      let b ← relExpr c n
      matchRest c n (.matches true a b)
    | _ => pure a

/-- A comparison. -/
def relExpr (c : Ctx) : Nat → P Expr
  | 0 => failHere
  | n + 1 => do
    let a ← pipeRest c n (← concatExpr c n)
    match ← peek with
    | .punct op =>
      if op == "<" || op == "<=" || op == "!=" || op == "==" || op == ">=" || (op == ">" && !c.noGt) then
        advance
        let b ← pipeRest c n (← concatExpr c n)
        pure (.binary op a b)
      else pure a
    | _ => pure a

/-- Reads from commands after an operand: `| getline`, `| getline var`, any number of times. -/
def pipeRest (c : Ctx) : Nat → Expr → P Expr
  | 0, a => pure a
  | n + 1, a => do
    let bar ← isPunct "|"
    let next ← peek2
    match bar, next with
    | true, .kw "getline" =>
      advance
      advance
      let target ← match ← peek with
        | .name _ | .punct "$" => do pure (some (← primary c n))
        | _ => pure none
      pipeRest c n (.pipeGetline a target)
    | _, _ => pure a

/-- A concatenation. -/
def concatExpr (c : Ctx) : Nat → P Expr
  | 0 => failHere
  | n + 1 => do
    let a ← addExpr c n
    concatRest c n a

/-- The rest of a concatenation: operands follow as long as one can start. -/
def concatRest (c : Ctx) : Nat → Expr → P Expr
  | 0, a => pure a
  | n + 1, a => do
    let t ← peek
    let starts := match t with
      | .punct "-" | .punct "+" => false
      | .kw "in" => false
      | _ => t.startsConcat
    if starts then
      let b ← addExpr c n
      concatRest c n (.concat a b)
    else pure a

/-- `a + b`, `a - b`. -/
def addExpr (c : Ctx) : Nat → P Expr
  | 0 => failHere
  | n + 1 => do
    let a ← mulExpr c n
    addRest c n a

/-- The rest of a chain of `+` and `-`. -/
def addRest (c : Ctx) : Nat → Expr → P Expr
  | 0, a => pure a
  | n + 1, a => do
    match ← peek with
    | .punct op =>
      if op == "+" || op == "-" then
        advance
        let b ← mulExpr c n
        addRest c n (.binary op a b)
      else pure a
    | _ => pure a

/-- `a * b`, `a / b`, `a % b`. -/
def mulExpr (c : Ctx) : Nat → P Expr
  | 0 => failHere
  | n + 1 => do
    let a ← unary c n
    mulRest c n a

/-- The rest of a chain of `*`, `/` and `%`. -/
def mulRest (c : Ctx) : Nat → Expr → P Expr
  | 0, a => pure a
  | n + 1, a => do
    match ← peek with
    | .punct op =>
      if op == "*" || op == "/" || op == "%" then
        advance
        let b ← unary c n
        mulRest c n (.binary op a b)
      else pure a
    | _ => pure a

/-- `!a`, `-a`, `+a`, or a power. -/
def unary (c : Ctx) : Nat → P Expr
  | 0 => failHere
  | n + 1 => do
    match ← peek with
    | .punct "!" => advance; pure (.not (← unary c n))
    | .punct "-" => advance; pure (.neg (← unary c n))
    | .punct "+" => advance; pure (.plus (← unary c n))
    | _ => power c n

/-- `a ^ b`, right to left; the exponent may carry a sign. -/
def power (c : Ctx) : Nat → P Expr
  | 0 => failHere
  | n + 1 => do
    let a ← suffixed c n
    if ← isPunct "^" then
      advance
      let b ← match ← peek with
        | .punct "-" => do advance; pure (Expr.neg (← power c n))
        | .punct "+" => do advance; pure (Expr.plus (← power c n))
        | .punct "!" => do advance; pure (Expr.not (← power c n))
        | _ => power c n
      pure (.binary "^" a b)
    else pure a

/-- A primary with `++` or `--` after it. -/
def suffixed (c : Ctx) : Nat → P Expr
  | 0 => failHere
  | n + 1 => do
    let a ← primary c n
    if a.isLvalue then
      match ← peek with
      | .punct "++" => advance; pure (.step false true a)
      | .punct "--" => advance; pure (.step false false a)
      | _ => pure a
    else pure a

/-- The comma-separated expressions up to `close`. -/
def exprList (c : Ctx) (close : String) : Nat → P (List Expr)
  | 0 => failHere
  | n + 1 => do
    skipNewlines 64
    if ← isPunct close then pure []
    else
      let e ← expr c n
      skipNewlines 64
      if ← isPunct "," then
        advance
        let rest ← exprList c close n
        pure (e :: rest)
      else pure [e]

/-- A primary expression. -/
def primary (c : Ctx) : Nat → P Expr
  | 0 => failHere
  | n + 1 => do
    match ← peek with
    | .num v => advance; pure (.num v)
    | .str s => advance; pure (.str s)
    | .ere s => advance; pure (.regex s)
    | .punct "$" =>
      advance
      match ← peek with
      | .punct "++" => advance; pure (.field (.step true true (← primary c n)))
      | .punct "--" => advance; pure (.field (.step true false (← primary c n)))
      | .punct "-" => advance; pure (.field (.neg (← primary c n)))
      | _ => pure (.field (← primary c n))
    | .punct "++" => advance; pure (.step true true (← primary c n))
    | .punct "--" => advance; pure (.step true false (← primary c n))
    | .punct "-" => advance; pure (.neg (← unary c n))
    | .punct "!" => advance; pure (.not (← unary c n))
    | .punct "(" =>
      advance
      let es ← exprList {} ")" n
      expect ")"
      match es with
      | [e] => pure (.group e)
      | [] => failHere
      | _ => pure (.group (.call "" es))
    | .name v =>
      advance
      if ← isPunct "[" then
        advance
        let subs ← exprList {} "]" n
        expect "]"
        pure (.index v subs)
      else pure (.var v)
    | .funcName f =>
      advance
      expect "("
      let args ← exprList {} ")" n
      expect ")"
      pure (.call f args)
    | .builtin b =>
      advance
      if ← isPunct "(" then
        advance
        let args ← exprList {} ")" n
        expect ")"
        pure (.call b args)
      else if b == "length" then pure (.call b [])
      else failHere
    | .kw "getline" =>
      advance
      let target ← match ← peek with
        | .name _ | .punct "$" => do pure (some (← primary c n))
        | _ => pure none
      if ← isPunct "<" then
        advance
        let src ← primary c n
        pure (.getline target (some src))
      else pure (.getline target none)
    | _ => failHere

end

/-- A statement's end: `;`, a newline, or (not taken) `}` or the end. -/
def endStatement : P Unit := do
  match ← peek with
  | .punct ";" | .newline => advance
  | .punct "\x7d" | .eof => pure ()
  | _ => failHere

/-- The destination of `print` or `printf`, if any. -/
def destination (n : Nat) : P Dest := do
  match ← peek with
  | .punct ">" => advance; pure (.file false (← concatExpr { noGt := true } n))
  | .punct ">>" => advance; pure (.file true (← concatExpr { noGt := true } n))
  | .punct "|" => advance; pure (.pipe (← concatExpr { noGt := true } n))
  | _ => pure .stdout

/-- Whether a token ends the arguments of `print`. -/
def Tok.endsPrint : Tok → Bool
  | .punct p => p == ";" || p == "\x7d" || p == ">" || p == ">>" || p == "|"
  | .newline | .eof => true
  | _ => false

/-- The arguments of `print` or `printf`: a list in parentheses on its own, or expressions. -/
def printArgs (n : Nat) : P (List Expr) := do
  if (← peek).endsPrint then return []
  let saved ← get
  if ← isPunct "(" then
    advance
    let attempt ← (do
      let es ← exprList {} ")" n
      expect ")"
      pure (some es)) <|> pure none
    match attempt with
    | some es => if (← peek).endsPrint then return es
    | none => pure ()
    set saved
  let rec more : Nat → P (List Expr)
    | 0 => pure []
    | k + 1 => do
      let e ← expr { noGt := true } n
      if ← isPunct "," then
        advance
        skipNewlines 64
        pure (e :: (← more k))
      else pure [e]
  more (← remaining)

/-- A simple statement (without its end). -/
def simpleStatement (n : Nat) : P Stmt := do
  match ← peek with
  | .kw "print" =>
    advance
    let args ← printArgs n
    pure (.print args (← destination n))
  | .kw "printf" =>
    advance
    let args ← printArgs n
    if args.isEmpty then failHere
    pure (.printf args (← destination n))
  | .kw "delete" =>
    advance
    match ← peek with
    | .name arr =>
      advance
      if ← isPunct "[" then
        advance
        let subs ← exprList {} "]" n
        expect "]"
        pure (.delete arr (some subs))
      else pure (.delete arr none)
    | _ => failHere
  | .kw "next" => advance; pure .next
  | .kw "nextfile" => advance; pure .next
  | .kw "break" => advance; pure .brk
  | .kw "continue" => advance; pure .cont
  | .kw "exit" =>
    advance
    match ← peek with
    | .punct ";" | .punct "\x7d" | .newline | .eof => pure (.exit none)
    | _ => pure (.exit (some (← expr {} n)))
  | .kw "return" =>
    advance
    match ← peek with
    | .punct ";" | .punct "\x7d" | .newline | .eof => pure (.ret none)
    | _ => pure (.ret (some (← expr {} n)))
  | _ => pure (.expr (← expr {} n))

mutual

/-- A statement. -/
def statement : Nat → P Stmt
  | 0 => failHere
  | n + 1 => do
    skipNewlines 64
    match ← peek with
    | .punct "\x7b" =>
      advance
      let body ← statements n
      expect "\x7d"
      pure (.block body)
    | .punct ";" => advance; pure (.block [])
    | .kw "if" =>
      advance
      expect "("
      let c ← expr {} n
      expect ")"
      let yes ← statement n
      let saved ← get
      skipTerminators 64
      if ← isKw "else" then
        advance
        let no ← statement n
        pure (.ifElse c yes (some no))
      else
        set saved
        pure (.ifElse c yes none)
    | .kw "while" =>
      advance
      expect "("
      let c ← expr {} n
      expect ")"
      if ← isPunct ";" then
        advance
        pure (.while c (.block []))
      else pure (.while c (← statement n))
    | .kw "do" =>
      advance
      let body ← statement n
      skipTerminators 64
      if !(← isKw "while") then failHere
      advance
      expect "("
      let c ← expr {} n
      expect ")"
      endStatement
      pure (.doWhile body c)
    | .kw "for" =>
      advance
      expect "("
      match ← peek, ← peek2 with
      | .name v, .kw "in" =>
        let saved ← get
        advance
        advance
        match ← peek, ← peek2 with
        | .name arr, .punct ")" =>
          advance
          advance
          pure (.forIn v arr (← statement n))
        | _, _ =>
          set saved
          forC n
      | _, _ => forC n
    | _ =>
      let s ← simpleStatement n
      endStatement
      pure s

/-- The rest of `for (init; cond; step) body` after the `(`. -/
def forC : Nat → P Stmt
  | 0 => failHere
  | n + 1 => do
    let init ← if ← isPunct ";" then pure none else pure (some (← simpleStatement n))
    expect ";"
    skipNewlines 64
    let c ← if ← isPunct ";" then pure none else pure (some (← expr {} n))
    expect ";"
    skipNewlines 64
    let step ← if ← isPunct ")" then pure none else pure (some (← simpleStatement n))
    expect ")"
    if ← isPunct ";" then
      advance
      pure (.forC init c step (.block []))
    else pure (.forC init c step (← statement n))

/-- Statements up to `}`. -/
def statements : Nat → P (List Stmt)
  | 0 => failHere
  | n + 1 => do
    skipTerminators 64
    if (← isPunct "\x7d") then pure []
    else
      match ← peek with
      | .eof => pure []
      | _ =>
        let s ← statement n
        let rest ← statements n
        pure (s :: rest)

end

/-- One item or function of a program. -/
def item (n : Nat) : P (Option Item ⊕ Function) := do
  match ← peek with
  | .kw "function" =>
    advance
    let name ← match ← peek with
      | .name f | .funcName f => do advance; pure f
      | _ => failHere
    expect "("
    let rec params : Nat → P (List String)
      | 0 => pure []
      | k + 1 => do
        skipNewlines 64
        match ← peek with
        | .name p =>
          advance
          skipNewlines 64
          if ← isPunct "," then
            advance
            pure (p :: (← params k))
          else pure [p]
        | _ => pure []
    let ps ← params (← remaining)
    expect ")"
    skipNewlines 64
    expect "\x7b"
    let body ← statements n
    expect "\x7d"
    pure (.inr { name, params := ps, body := .block body })
  | _ =>
    let pattern ← match ← peek with
      | .kw "BEGIN" => do advance; pure Pattern.begin
      | .kw "END" => do advance; pure Pattern.finish
      | .punct "\x7b" => pure Pattern.always
      | _ => do
        let a ← expr {} n
        if ← isPunct "," then
          advance
          skipNewlines 64
          let b ← expr {} n
          pure (Pattern.range a b)
        else pure (Pattern.test a)
    if ← isPunct "\x7b" then
      advance
      let body ← statements n
      expect "\x7d"
      pure (.inl (some { pattern, action := some (.block body) }))
    else
      match pattern with
      | .begin | .finish => failHere
      | _ => pure (.inl (some { pattern, action := none }))

/-- All items of a program. -/
def items : Nat → P (List (Option Item ⊕ Function))
  | 0 => pure []
  | n + 1 => do
    skipTerminators 64
    match ← peek with
    | .eof => pure []
    | _ =>
      let i ← item n
      match ← peek with
      | .punct ";" | .newline | .eof => pure ()
      | _ =>
        match i with
        | .inl (some { action := some _, .. }) | .inr _ => pure ()
        | _ => failHere
      pure (i :: (← items n))

/-- Read a program. -/
def parseProgram (src : String) : Except String Program := do
  let toks ← tokenize (src.length + 2) src.toList 1 none []
  let depth := 8 * toks.length + 64
  let (all, _) ← (items depth).run { toks := toks.toArray }
  let itemsOf := all.filterMap fun x => match x with
    | .inl (some i) => some i
    | _ => none
  let fns := all.filterMap fun x => match x with
    | .inr f => some f
    | _ => none
  pure { items := itemsOf, functions := fns }

end Fanout.Awk
