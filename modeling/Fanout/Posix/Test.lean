/-!
# The `test` command

`test` (and `[`, whose last argument must be `]`) reads its arguments as the shell does. With
three arguments and a binary operator in the middle, that comparison is made. With three or four
arguments, parentheses around the rest are dropped, or a leading `!` is taken off and the rest
read again with the result negated. Otherwise the words are read from the left as an expression:
`-o` joins `-a` chains, `-a` joins terms, `!` negates a term, and a term is a parenthesised
expression, a unary test, a comparison, or a lone word (true when not empty). A unary operator
that is the last word, or that a binary operator and a word follow, is itself a word.

Every term of a chain is evaluated, so an error anywhere is reported. When the expression is
done with more than one word left, the first is an unexpected operator.

Integers are read as the C library reads them in base ten: blanks first and last, a sign, and
digits, within 64 bits; anything else is an illegal number.
-/

namespace Fanout.Posix

/-- The kinds of file `test` tells apart. -/
inductive FileKind where
  | regular
  | directory
  | charDevice
  | symlink
  deriving Inhabited, Repr, BEq

/-- What `test` learns about a path. -/
structure FileFacts where
  kind : FileKind
  mode : Nat
  size : Nat
  /-- When the file was last written, as a tick of the machine's clock of writes. -/
  stamp : Nat
  /-- What identifies the file: two paths that lead to it have the same. -/
  ident : String
  deriving Inhabited, Repr

/-- How `test` looks at paths: with links followed, and without. -/
structure FileProbe where
  stat : String → Option FileFacts
  lstat : String → Option FileFacts

/-- The operators of `test`. -/
inductive TestOp where
  | unary (name : String)
  | binary (name : String)
  | not
  | and
  | or
  | lparen
  | rparen
  deriving Inhabited, Repr, BEq

/-- The unary operators. -/
def unaryNames : List String :=
  ["-r", "-w", "-x", "-e", "-f", "-d", "-c", "-b", "-p", "-u", "-g", "-k", "-s", "-t", "-z", "-n",
   "-h", "-O", "-G", "-L", "-S"]

/-- The binary operators. -/
def binaryNames : List String :=
  ["=", "!=", "<", ">", "-eq", "-ne", "-ge", "-gt", "-le", "-lt", "-nt", "-ot", "-ef"]

/-- The operator a word spells, if any. -/
def testOp? (s : String) : Option TestOp :=
  if unaryNames.contains s then some (.unary s)
  else if binaryNames.contains s then some (.binary s)
  else match s with
    | "!" => some .not
    | "-a" => some .and
    | "-o" => some .or
    | "(" => some .lparen
    | ")" => some .rparen
    | _ => none

/-- Whether a word spells a binary operator. -/
def isBinaryWord (s : String) : Bool := binaryNames.contains s

/-- A token of the expression: the end, a word, or an operator. -/
inductive TestTok where
  | eoi
  | operand
  | op (o : TestOp)
  deriving Inhabited, Repr, BEq

/-- The token at position `i`. A unary operator counts as a word when it is the last word, or
when a binary operator follows it with a word after that; `(` as the last word is a word too. -/
def lexAt (ws : Array String) (i : Nat) : TestTok :=
  match ws[i]? with
  | none => .eoi
  | some s =>
    match testOp? s with
    | some (.unary n) =>
      let operandHere := match ws[i + 1]?, ws[i + 2]? with
        | none, _ => true
        | some _, none => false
        | some b, some _ => isBinaryWord b
      if operandHere then .operand else .op (.unary n)
    | some .lparen => if ws[i + 1]?.isNone then .operand else .op .lparen
    | some o => .op o
    | none => .operand

/-- Whether a character is white space for the C library. -/
def isCSpace (c : Char) : Bool :=
  c == ' ' || c == '\t' || c == '\n' || c == '\r' || c == '\x0b' || c == '\x0c'

/-- The largest 64-bit signed integer. -/
def intMax : Int := 9223372036854775807

/-- An integer argument, read in base ten with blanks around it and within 64 bits. -/
def testNumber (s : String) : Except String Int :=
  let bad : Except String Int := .error ("Illegal number: " ++ s)
  let cs := s.toList.dropWhile isCSpace
  let (neg, body) := match cs with
    | '-' :: r => (true, r)
    | '+' :: r => (false, r)
    | _ => (false, cs)
  let ds := body.takeWhile Char.isDigit
  let rest := body.drop ds.length
  if ds.isEmpty || !rest.all isCSpace then bad
  else
    let v : Int := ds.foldl (fun n c => 10 * n + (c.toNat - '0'.toNat)) 0
    let v := if neg then -v else v
    if v > intMax || v < -intMax - 1 then bad else .ok v

/-- A comparison of two words. -/
def binaryTest (probe : FileProbe) (op a b : String) : Except String Bool :=
  match op with
  | "=" => .ok (a == b)
  | "!=" => .ok (a != b)
  | "<" => .ok (compare a b == .lt)
  | ">" => .ok (compare a b == .gt)
  | "-nt" => .ok (match probe.stat a, probe.stat b with
    | some x, some y => x.stamp > y.stamp
    | _, _ => false)
  | "-ot" => .ok (match probe.stat a, probe.stat b with
    | some x, some y => x.stamp < y.stamp
    | _, _ => false)
  | "-ef" => .ok (match probe.stat a, probe.stat b with
    | some x, some y => x.ident == y.ident
    | _, _ => false)
  | _ => do
    let x ← testNumber a
    let y ← testNumber b
    match op with
    | "-eq" => pure (x == y)
    | "-ne" => pure (x != y)
    | "-lt" => pure (x < y)
    | "-le" => pure (x ≤ y)
    | "-gt" => pure (x > y)
    | _ => pure (x ≥ y)

/-- Whether a mode has an execute bit. -/
def anyExecuteBit (mode : Nat) : Bool := mode / 64 % 2 == 1 || mode / 8 % 2 == 1 || mode % 2 == 1

/-- A unary test of a word. The machine's user owns every file and may read and write them
all; a file may be run when it has an execute bit or is a directory. -/
def unaryTest (probe : FileProbe) (op a : String) : Except String Bool :=
  match op with
  | "-n" => .ok (!a.isEmpty)
  | "-z" => .ok a.isEmpty
  | "-t" => do
    let _ ← testNumber a
    pure false
  | "-h" | "-L" => .ok (match probe.lstat a with
    | some f => f.kind == .symlink
    | none => false)
  | _ =>
    match probe.stat a with
    | none => .ok false
    | some f =>
      match op with
      | "-e" => .ok true
      | "-f" => .ok (f.kind == .regular)
      | "-d" => .ok (f.kind == .directory)
      | "-c" => .ok (f.kind == .charDevice)
      | "-r" | "-w" | "-O" | "-G" => .ok true
      | "-x" => .ok (anyExecuteBit f.mode || f.kind == .directory)
      | "-s" => .ok (f.size > 0)
      | "-u" => .ok (f.mode / 0o4000 % 2 == 1)
      | "-g" => .ok (f.mode / 0o2000 % 2 == 1)
      | "-k" => .ok (f.mode / 0o1000 % 2 == 1)
      | _ => .ok false

/-- The reader of an expression: the position of the current word, or an error message. -/
abbrev TestM := StateT Nat (Except String)

/-- Fail with `word: message`, or the message alone when there is no word. -/
def testSyntax {α : Type} (word msg : String) : TestM α :=
  throw (if word.isEmpty then msg else word ++ ": " ++ msg)

mutual

/-- Terms joined by `-o`, starting with the token `n`. -/
def orExpr (probe : FileProbe) (ws : Array String) : Nat → TestTok → TestM Bool
  | 0, _ => throw "expression too deep"
  | k + 1, n => do
    let a ← andExpr probe ws k n
    let i ← get
    if lexAt ws (i + 1) == .op .or then
      set (i + 2)
      let b ← orExpr probe ws k (lexAt ws (i + 2))
      pure (a || b)
    else pure a

/-- Terms joined by `-a`, starting with the token `n`. -/
def andExpr (probe : FileProbe) (ws : Array String) : Nat → TestTok → TestM Bool
  | 0, _ => throw "expression too deep"
  | k + 1, n => do
    let a ← notExpr probe ws k n
    let i ← get
    if lexAt ws (i + 1) == .op .and then
      set (i + 2)
      let b ← andExpr probe ws k (lexAt ws (i + 2))
      pure (a && b)
    else pure a

/-- A term with any number of leading `!`. -/
def notExpr (probe : FileProbe) (ws : Array String) : Nat → TestTok → TestM Bool
  | 0, _ => throw "expression too deep"
  | k + 1, n =>
    if n == .op .not then do
      let i ← get
      set (i + 1)
      let a ← notExpr probe ws k (lexAt ws (i + 1))
      pure !a
    else primary probe ws k n

/-- A term: parentheses, a unary test, a comparison or a lone word. -/
def primary (probe : FileProbe) (ws : Array String) : Nat → TestTok → TestM Bool
  | 0, _ => throw "expression too deep"
  | k + 1, n => do
    let i ← get
    match n with
    | .eoi => pure false
    | .op .lparen =>
      set (i + 1)
      let nn := lexAt ws (i + 1)
      if nn == .op .rparen then pure false
      else
        let r ← orExpr probe ws k nn
        let j ← get
        set (j + 1)
        if lexAt ws (j + 1) != .op .rparen then testSyntax "" "closing paren expected"
        pure r
    | .op (.unary name) =>
      set (i + 1)
      match ws[i + 1]? with
      | none => testSyntax name "argument expected"
      | some a =>
        match unaryTest probe name a with
        | .ok b => pure b
        | .error e => throw e
    | _ =>
      match lexAt ws (i + 1) with
      | .op (.binary name) =>
        set (i + 2)
        match ws[i + 2]? with
        | none => testSyntax name "argument expected"
        | some b =>
          match binaryTest probe name (ws[i]?.getD "") b with
          | .ok r => pure r
          | .error e => throw e
      | _ => pure !(ws[i]?.getD "").isEmpty

end

/-- Evaluate an expression from its first token, and check that at most one word is left. -/
def evalTest (probe : FileProbe) (ws : Array String) (first : TestTok) : Except String Bool := do
  let (r, i) ← (orExpr probe ws (2 * ws.size + 4) first).run 0
  match ws[i]?, ws[i + 1]? with
  | some w, some _ => .error (w ++ ": unexpected operator")
  | _, _ => pure r

/-- Whether `test` holds for these arguments; `negated` holds once a leading `!` has been taken
off, and then the result is flipped. -/
def testWith (probe : FileProbe) : Nat → Bool → List String → Except String Bool
  | 0, negated, args => (evalTest probe args.toArray (lexAt args.toArray 0)).map (· != negated)
  | fuel + 1, negated, args =>
    let ws := args.toArray
    let general := (evalTest probe ws (lexAt ws 0)).map (· != negated)
    let grouped : Except String Bool :=
      if args.head? == some "(" && args.getLast? == some ")" then
        let inner := ((args.drop 1).dropLast).toArray
        (evalTest probe inner (lexAt inner 0)).map (· != negated)
      else if args.head? == some "!" then testWith probe fuel true (args.drop 1)
      else general
    match args with
    | [] => .ok negated
    | [_, op, _] =>
      if isBinaryWord op then (evalTest probe ws .operand).map (· != negated)
      else grouped
    | [_, _, _, _] => grouped
    | _ => general

/-- Evaluate the arguments of `test`: whether it holds, or the error message. -/
def testArgs (probe : FileProbe) (args : List String) : Except String Bool :=
  testWith probe args.length false args

/-- `[ … ]`: the last argument must be `]`. -/
def bracketArgs (probe : FileProbe) (args : List String) : Except String Bool :=
  if args.getLast? == some "]" then testArgs probe args.dropLast else .error "missing ]"

end Fanout.Posix
