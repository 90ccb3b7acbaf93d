import Fanout.Programs.Basic
import Fanout.Posix.Builtins

/-!
# The `test` and `[` programs

The installed `test` reads its arguments by their number, as POSIX says: none is false, one is
true when it is not empty, two are `! x` or a unary test, three a binary test (or `! x y`,
`( x )`, `x -a y`, `x -o y`), four `! x y z` or `( x y )`; more are an expression with `!`,
`-a`, `-o` and parentheses. `[` needs `]` as its last argument.

Integers may have blanks around them and any number of digits. A malformed expression is
reported as `name: message` and ends the program with status 2.
-/

namespace Fanout.Programs

open Fanout.Posix

/-- The operators with two operands. -/
def testBinaryOps : List String :=
  ["=", "==", "!=", "-nt", "-ot", "-ef", "-eq", "-ne", "-lt", "-le", "-gt", "-ge", "<", ">"]

/-- The operators with one operand. -/
def testUnaryOps : List String :=
  ["-b", "-c", "-d", "-e", "-f", "-g", "-G", "-h", "-k", "-L", "-n", "-N", "-O", "-p", "-r",
   "-s", "-S", "-t", "-u", "-w", "-x", "-z"]

/-- An integer operand: blanks, a sign, digits and blanks; none when it is not one. -/
def testInteger (s : String) : Option Int :=
  let cs := s.toList.dropWhile fun c => c == ' ' || c == '\t'
  let (neg, cs) := match cs with
    | '+' :: r => (false, r)
    | '-' :: r => (true, r)
    | _ => (false, cs)
  let ds := cs.takeWhile Char.isDigit
  let rest := cs.drop ds.length
  if ds.isEmpty || !rest.all (fun c => c == ' ' || c == '\t') then none
  else
    let v : Int := (ds.foldl (fun n d => 10 * n + (d.toNat - 48)) 0 : Nat)
    some (if neg then -v else v)

/-- The reader of `test`'s arguments: the position of the next one. -/
abbrev CondM := StateT Nat (Except String)

/-- What `test` needs from its surroundings: the arguments, the way to look at files, and how
texts are quoted in messages. -/
structure CondEnv where
  args : Array String
  probe : FileProbe
  utf8 : Bool

namespace CondEnv

/-- The argument at a position, empty past the end. -/
def at_ (e : CondEnv) (i : Nat) : String := e.args.getD i ""

/-- Fail: an argument is missing after the last one. -/
def beyond {α : Type} (e : CondEnv) : CondM α :=
  throw ("missing argument after " ++ quoteIn e.utf8 (e.args.back?.getD ""))

/-- Move past an argument; with `need`, another must follow. -/
def advance (e : CondEnv) (need : Bool) : CondM Unit := do
  modify (· + 1)
  if need && (← get) ≥ e.args.size then e.beyond

/-- Apply a binary operator to the two arguments around the one at `pos + 1`. -/
def binary (e : CondEnv) : CondM Bool := do
  let pos ← get
  let a := e.at_ pos
  let op := e.at_ (pos + 1)
  let b := e.at_ (pos + 2)
  set (pos + 3)
  let number (s : String) : CondM Int :=
    match testInteger s with
    | some v => pure v
    | none => throw ("invalid integer " ++ quoteIn e.utf8 s)
  match op with
  | "=" | "==" => pure (a == b)
  | "!=" => pure (a != b)
  | "<" => pure (a < b)
  | ">" => pure (b < a)
  | "-nt" | "-ot" | "-ef" =>
    match binaryTest e.probe op a b with
    | .ok v => pure v
    | .error m => throw m
  | _ =>
    let x ← number a
    let y ← number b
    pure (match op with
      | "-eq" => x == y
      | "-ne" => x != y
      | "-lt" => decide (x < y)
      | "-le" => decide (x ≤ y)
      | "-gt" => decide (x > y)
      | _ => decide (x ≥ y))

/-- Apply the unary operator at the position to the argument after it. -/
def unary (e : CondEnv) : CondM Bool := do
  let op := e.at_ (← get)
  e.advance true
  let a := e.at_ (← get)
  e.advance false
  if op == "-t" then
    match testInteger a with
    | some _ => pure false
    | none => throw ("invalid integer " ++ quoteIn e.utf8 a)
  else
    match unaryTest e.probe op a with
    | .ok v => pure v
    | .error m => throw m

/-- One argument: true when it is not empty. -/
def one (e : CondEnv) : CondM Bool := do
  let v := !(e.at_ (← get)).isEmpty
  e.advance false
  pure v

/-- Whether an argument is a one-letter option such as `-f`. -/
def isSwitch (s : String) : Bool := s.length == 2 && s.startsWith "-"

/-- Two arguments. -/
def two (e : CondEnv) : CondM Bool := do
  let pos ← get
  let a := e.at_ pos
  if a == "!" then
    e.advance false
    pure !(← e.one)
  else if isSwitch a then
    if testUnaryOps.contains a then e.unary
    else throw (quoteIn e.utf8 a ++ ": unary operator expected")
  else e.beyond

mutual

/-- An expression of `-o`s. -/
def orExpr (e : CondEnv) : Nat → CondM Bool
  | 0 => throw "expression too deep"
  | n + 1 => do
    let v ← andExpr e n
    if (← get) < e.args.size && e.at_ (← get) == "-o" then
      e.advance false
      let w ← orExpr e n
      pure (v || w)
    else pure v

/-- An expression of `-a`s. -/
def andExpr (e : CondEnv) : Nat → CondM Bool
  | 0 => throw "expression too deep"
  | n + 1 => do
    let v ← term e n
    if (← get) < e.args.size && e.at_ (← get) == "-a" then
      e.advance false
      let w ← andExpr e n
      pure (v && w)
    else pure v

/-- A term: `!`s, then a parenthesized expression, a binary or unary test, or a text. -/
def term (e : CondEnv) : Nat → CondM Bool
  | 0 => throw "expression too deep"
  | n + 1 => do
    let rec nots : Nat → Bool → CondM Bool
      | 0, neg => pure neg
      | k + 1, neg => do
        if (← get) < e.args.size && e.at_ (← get) == "!" then
          e.advance true
          nots k (!neg)
        else pure neg
    let negated ← nots (e.args.size + 1) false
    let pos ← get
    if pos ≥ e.args.size then e.beyond
    let a := e.at_ pos
    let left := e.args.size - pos
    let v ← do
      if a == "(" then
        e.advance true
        let p ← get
        let count := ((List.range 4).find? fun k => p + k + 1 ≥ e.args.size || e.at_ (p + k + 1) == ")").map (· + 1)
        let count := match count with
          | some c => if p + c < e.args.size || c < 4 then c else e.args.size - p
          | none => e.args.size - p
        let v ← posix e n count
        let q ← get
        if q ≥ e.args.size then throw (quoteIn e.utf8 ")" ++ " expected")
        else if e.at_ q != ")" then
          throw (quoteIn e.utf8 ")" ++ " expected, found " ++ quoteIn e.utf8 (e.at_ q))
        e.advance false
        pure v
      else if left ≥ 3 && testBinaryOps.contains (e.at_ (pos + 1)) then e.binary
      else if isSwitch a then
        if testUnaryOps.contains a then e.unary
        else throw (quoteIn e.utf8 a ++ ": unary operator expected")
      else e.one
    pure (negated != v)

/-- Three arguments. -/
def three (e : CondEnv) : Nat → CondM Bool
  | 0 => throw "expression too deep"
  | n + 1 => do
    let pos ← get
    if testBinaryOps.contains (e.at_ (pos + 1)) then e.binary
    else if e.at_ pos == "!" then
      e.advance true
      pure !(← e.two)
    else if e.at_ pos == "(" && e.at_ (pos + 2) == ")" then
      e.advance false
      let v ← e.one
      e.advance false
      pure v
    else if e.at_ (pos + 1) == "-a" || e.at_ (pos + 1) == "-o" then orExpr e n
    else throw (quoteIn e.utf8 (e.at_ (pos + 1)) ++ ": binary operator expected")

/-- Read `count` arguments by their number. -/
def posix (e : CondEnv) : Nat → Nat → CondM Bool
  | 0, _ => throw "expression too deep"
  | n + 1, count => do
    let pos ← get
    match count with
    | 0 => pure false
    | 1 => e.one
    | 2 => e.two
    | 3 => three e n
    | 4 =>
      if e.at_ pos == "!" then
        e.advance true
        pure !(← three e n)
      else if e.at_ pos == "(" && e.at_ (pos + 3) == ")" then
        e.advance false
        let v ← e.two
        e.advance false
        pure v
      else orExpr e n
    | _ => orExpr e n

end

end CondEnv

/-- The `test` program, or `[` when `bracket`. -/
def conditionProgram (bracket : Bool) (name : String) (args : List String) : Sh Unit := do
  let utf8 := utf8Locale (← getShell)
  let args ← if bracket then
      if args.getLast? == some "]" then pure args.dropLast
      else
        say name ("missing " ++ quoteIn utf8 "]")
        exitWith 2
    else pure args
  let w ← get
  let e : CondEnv := { args := args.toArray, probe := fileProbe w.p.fs w.sh.cwd, utf8 }
  match (e.posix (4 * args.length + 8) args.length).run 0 with
  | .ok (v, pos) =>
    if pos < args.length then
      say name ("extra argument " ++ quoteIn utf8 (args.getD pos ""))
      exitWith 2
    exitWith (if v then 0 else 1)
  | .error msg =>
    say name msg
    exitWith 2

end Fanout.Programs
