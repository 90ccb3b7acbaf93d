import Fanout.Posix.Numeric

/-!
# Shell arithmetic

The expressions of `$((…))`: signed 64-bit integers with C's operators and precedence,
variables by name, assignments (`=`, `+=`, …), short-circuit `&&`, `||` and `?:`.

A number is read as `strtoimax` reads it with base zero (`0x` hexadecimal, a leading `0`
octal), a value past the 64-bit range becoming the nearest limit; reading stops where the
digits of the base stop, so `08` is the number `0` followed by the number `8`. A variable's
value is read the same way, with blanks allowed around it; unset or empty counts as zero, and
anything else is an illegal number.

Sums, differences and products wrap around in 64 bits; a shift uses its count modulo 64. The
quotient or remainder of the smallest number by `-1` is a fault of the processor, which kills
the shell with `SIGFPE`.
-/

namespace Fanout.Posix

/-- Why an expression has no value. -/
inductive ArithError where
  /-- The expression is malformed: `expecting primary`, `expecting EOF`, … -/
  | malformed (msg : String)
  | divisionByZero
  /-- A variable holds `text`, which is not a number. -/
  | badNumber (text : String)
  /-- The processor faulted on a division. -/
  | fault
  deriving Inhabited, Repr, BEq

/-- An arithmetic expression. -/
inductive Expr where
  | num (n : Int)
  | var (name : String)
  | unary (op : String) (e : Expr)
  | binary (op : String) (a b : Expr)
  | cond (c a b : Expr)
  /-- `name op= e`; `op` is empty for a plain assignment. -/
  | assign (name : String) (op : String) (e : Expr)
  deriving Inhabited, Repr

/-- Wrap an integer to the signed 64-bit range. -/
def wrap64 (x : Int) : Int :=
  let m : Int := Int.ofNat (Nat.pow 2 64)
  let h : Int := Int.ofNat (Nat.pow 2 63)
  (x + h) % m - h

/-- The value of a variable's text: blanks around a number with an optional sign and base
prefix; empty or blank is zero. -/
def textValue (s : String) : Except ArithError Int :=
  let cs := s.toList
  let (v, used) := scanInteger 0 cs
  let (v, range) := clampSigned v
  if range then .error (.badNumber s)
  else if (cs.drop used).all isBlankC then .ok v
  else .error (.badNumber s)

/-- A token of an expression. -/
inductive ATok where
  | num (n : Int)
  | name (s : String)
  | op (s : String)
  deriving Inhabited, Repr, BEq

/-- The operators, longest first. -/
def arithOps : List String :=
  ["<<=", ">>=", "<<", ">>", "<=", ">=", "==", "!=", "&&", "||", "+=", "-=", "*=", "/=", "%=",
   "&=", "^=", "|=", "+", "-", "*", "/", "%", "<", ">", "&", "^", "|", "!", "~", "?", ":", "=",
   "(", ")"]

/-- Split an expression into tokens; with `power`, `**` is the power operator. A character that
starts no token is a token of its own, which no rule of the grammar takes. -/
def arithTokens (power : Bool) : Nat → List Char → Except String (List ATok)
  | 0, _ => .ok []
  | _ + 1, [] => .ok []
  | fuel + 1, c :: rest =>
    if isBlankC c then arithTokens power fuel rest
    else if c.isDigit then
      let (v, used) := scanInteger 0 (c :: rest)
      (arithTokens power fuel ((c :: rest).drop (max used 1))).map (.num (clampSigned v).1 :: ·)
    else if c.isAlpha || c == '_' then
      let n := (c :: rest).takeWhile fun d => d.isAlphanum || d == '_'
      (arithTokens power fuel ((c :: rest).drop n.length)).map (.name (String.ofList n) :: ·)
    else if power && c == '*' && rest.head? == some '*' then
      (arithTokens power fuel (rest.drop 1)).map (.op "**" :: ·)
    else
      match arithOps.find? (fun op => op.toList.isPrefixOf (c :: rest)) with
      | some op => (arithTokens power fuel ((c :: rest).drop op.length)).map (.op op :: ·)
      | none => (arithTokens power fuel rest).map (.op (String.singleton c) :: ·)

/-- Binary operators by precedence level, loosest first. -/
def levels : List (List String) :=
  [["||"], ["&&"], ["|"], ["^"], ["&"], ["==", "!="], ["<", "<=", ">", ">="], ["<<", ">>"],
   ["+", "-"], ["*", "/", "%"]]

/-- The assignment operators. -/
def assignOps : List String := ["=", "+=", "-=", "*=", "/=", "%=", "<<=", ">>=", "&=", "^=", "|="]

mutual

/-- Parse an assignment or a conditional expression. -/
def parseAssign : Nat → List ATok → Except String (Expr × List ATok)
  | 0, _ => .error "expecting primary"
  | n + 1, ts =>
    match ts with
    | .name v :: .op op :: rest =>
      if assignOps.contains op then do
        let (e, r) ← parseAssign n rest
        pure (.assign v (op.dropEnd 1).toString e, r)
      else parseCond n ts
    | _ => parseCond n ts

/-- Parse `a ? b : c`. -/
def parseCond : Nat → List ATok → Except String (Expr × List ATok)
  | 0, _ => .error "expecting primary"
  | n + 1, ts => do
    let (c, r) ← parseLevel n 0 ts
    match r with
    | .op "?" :: r2 =>
      let (a, r3) ← parseAssign n r2
      match r3 with
      | .op ":" :: r4 =>
        let (b, r5) ← parseCond n r4
        pure (.cond c a b, r5)
      | _ => .error "expecting ':'"
    | _ => pure (c, r)

/-- Parse binary operators of precedence level `k` and tighter. -/
def parseLevel : Nat → Nat → List ATok → Except String (Expr × List ATok)
  | 0, _, _ => .error "expecting primary"
  | n + 1, k, ts =>
    match levels[k]? with
    | none => do
      let (a, r) ← parseUnary n ts
      match r with
      | .op "**" :: rest =>
        let (b, r2) ← parseLevel n k rest
        pure (.binary "**" a b, r2)
      | _ => pure (a, r)
    | some ops => do
      let (a, r) ← parseLevel n (k + 1) ts
      levelRest n k ops a r

/-- Parse the rest of a left-associative chain at level `k`. -/
def levelRest : Nat → Nat → List String → Expr → List ATok → Except String (Expr × List ATok)
  | 0, _, _, a, ts => pure (a, ts)
  | n + 1, k, ops, a, ts =>
    match ts with
    | .op op :: rest =>
      if ops.contains op then do
        let (b, r) ← parseLevel n (k + 1) rest
        levelRest n k ops (.binary op a b) r
      else pure (a, ts)
    | _ => pure (a, ts)

/-- Parse a unary operator or a primary expression. -/
def parseUnary : Nat → List ATok → Except String (Expr × List ATok)
  | 0, _ => .error "expecting primary"
  | n + 1, ts =>
    match ts with
    | .op op :: rest =>
      if op == "-" || op == "+" || op == "!" || op == "~" then do
        let (e, r) ← parseUnary n rest
        pure (.unary op e, r)
      else if op == "(" then do
        let (e, r) ← parseAssign n rest
        match r with
        | .op ")" :: r2 => pure (e, r2)
        | _ => .error "expecting ')'"
      else .error "expecting primary"
    | .num v :: rest => pure (.num v, rest)
    | .name v :: rest => pure (.var v, rest)
    | [] => .error "expecting primary"

end

/-- Parse a whole expression. An empty expression is zero in the bash dialect (`power`), and
wants a primary expression otherwise. -/
def parseExpr (power : Bool) (src : String) : Except String Expr := do
  let ts ← arithTokens power (src.length + 1) src.toList
  if ts.isEmpty then
    if power then return .num 0 else throw "expecting primary"
  let (e, rest) ← parseAssign (4 * ts.length + 40) ts
  if rest.isEmpty then pure e else .error "expecting EOF"

/-- The 64 bits of a number in two's complement. -/
def bits64 (x : Int) : Nat := (x % Int.ofNat (Nat.pow 2 64)).toNat

/-- The signed number of 64 bits in two's complement. -/
def ofBits64 (n : Nat) : Int := if n ≥ Nat.pow 2 63 then (n : Int) - Int.ofNat (Nat.pow 2 64) else n

/-- `a ^ e` modulo `2^64`, by squaring. -/
def powMod64 (a e : Nat) : Nat :=
  let m := Nat.pow 2 64
  let rec go (base acc : Nat) : Nat → Nat → Nat
    | 0, _ => acc
    | fuel + 1, e =>
      if e == 0 then acc
      else go (base * base % m) (if e % 2 == 1 then acc * base % m else acc) fuel (e / 2)
  go (a % m) 1 64 e

/-- Apply a binary operator. -/
def applyBinary (op : String) (a b : Int) : Except ArithError Int :=
  let bool (p : Bool) : Int := if p then 1 else 0
  let count := bits64 b % 64
  match op with
  | "+" => .ok (wrap64 (a + b))
  | "-" => .ok (wrap64 (a - b))
  | "*" => .ok (wrap64 (a * b))
  | "/" =>
    if b == 0 then .error .divisionByZero
    else if b == -1 && a == -intmaxMax - 1 then .error .fault
    else .ok (wrap64 (a.tdiv b))
  | "%" =>
    if b == 0 then .error .divisionByZero
    else if b == -1 && a == -intmaxMax - 1 then .error .fault
    else .ok (wrap64 (a.tmod b))
  | "<<" => .ok (wrap64 (a * Int.ofNat (Nat.pow 2 count)))
  | ">>" => .ok (a / Int.ofNat (Nat.pow 2 count))
  | "<" => .ok (bool (a < b))
  | "<=" => .ok (bool (a ≤ b))
  | ">" => .ok (bool (a > b))
  | ">=" => .ok (bool (a ≥ b))
  | "==" => .ok (bool (a == b))
  | "!=" => .ok (bool (a != b))
  | "&" => .ok (ofBits64 (bits64 a &&& bits64 b))
  | "|" => .ok (ofBits64 (bits64 a ||| bits64 b))
  | "^" => .ok (ofBits64 (bits64 a ^^^ bits64 b))
  | "**" =>
    if b < 0 then .error (.malformed "exponent less than 0")
    else .ok (ofBits64 (powMod64 (bits64 a) b.toNat))
  | _ => .error (.malformed "expecting EOF")

/-- Evaluate an expression over the variables `vars`; the value and the assignments made, in
order. -/
def Expr.eval (vars : String → Option String) : Nat → Expr → List (String × String) →
    Except ArithError (Int × List (String × String))
  | 0, _, _ => .error (.malformed "expression too deep")
  | _ + 1, .num v, asg => .ok (v, asg)
  | _ + 1, .var v, asg =>
    match asg.reverse.lookup v with
    | some s => (textValue s).map (·, asg)
    | none =>
      match vars v with
      | some s => (textValue s).map (·, asg)
      | none => .ok (0, asg)
  | fuel + 1, .unary op e, asg => do
    let (x, asg) ← Expr.eval vars fuel e asg
    match op with
    | "-" => pure (wrap64 (-x), asg)
    | "!" => pure (if x == 0 then 1 else 0, asg)
    | "~" => pure (-x - 1, asg)
    | _ => pure (x, asg)
  | fuel + 1, .binary op a b, asg => do
    let (x, asg) ← Expr.eval vars fuel a asg
    if op == "&&" then
      if x == 0 then pure (0, asg)
      else
        let (y, asg) ← Expr.eval vars fuel b asg
        pure (if y == 0 then 0 else 1, asg)
    else if op == "||" then
      if x != 0 then pure (1, asg)
      else
        let (y, asg) ← Expr.eval vars fuel b asg
        pure (if y == 0 then 0 else 1, asg)
    else
      let (y, asg) ← Expr.eval vars fuel b asg
      let z ← applyBinary op x y
      pure (z, asg)
  | fuel + 1, .cond c a b, asg => do
    let (x, asg) ← Expr.eval vars fuel c asg
    if x != 0 then Expr.eval vars fuel a asg else Expr.eval vars fuel b asg
  | fuel + 1, .assign v op e, asg => do
    let (y, asg) ← Expr.eval vars fuel e asg
    let z ← do
      if op.isEmpty then pure y
      else
        let (x, _) ← Expr.eval vars fuel (.var v) asg
        applyBinary op x y
    pure (z, asg ++ [(v, toString z)])

/-- Evaluate the text of an arithmetic expansion: its value and the assignments it made. With
`power`, `**` raises to a power. -/
def evalArith (power : Bool) (vars : String → Option String) (src : String) :
    Except ArithError (Int × List (String × String)) := do
  let e ← match parseExpr power src with
    | .ok e => pure e
    | .error msg => throw (.malformed msg)
  e.eval vars (4 * src.length + 40) []

end Fanout.Posix
