import Fanout.Programs.Basic
import Fanout.Text.Regex

/-!
# The `expr` program

`expr` evaluates the expression its arguments spell, one token an argument, and writes the
value. From the loosest binding to the tightest: `|`, `&`, the comparisons `< <= = == != >= >`,
`+ -`, `* / %`, `:` (a match of a basic regular expression anchored at the start), and the
keywords `match`, `substr`, `index`, `length` and `+ token`; parentheses group.

Values are integers (of any size) or texts; a text that is an optional `-` and digits counts as
an integer. The status is 0 when the value is neither empty nor zero, 1 when it is, 2 for a bad
expression and 3 for another error.
-/

namespace Fanout.Programs

open Fanout.Text Fanout.Posix

/-- A value of `expr`. -/
inductive ExprValue where
  | int (v : Int)
  | str (s : String)
  deriving Inhabited, Repr, BEq

/-- Whether a text is an integer as `expr` reads one. -/
def looksInteger (s : String) : Bool :=
  let body := if s.startsWith "-" then (s.drop 1).toString else s
  !body.isEmpty && body.all Char.isDigit

namespace ExprValue

/-- The value as text. -/
def text : ExprValue → String
  | .int v => toString v
  | .str s => s

/-- The value as an integer, when it is one. -/
def asInt : ExprValue → Option Int
  | .int v => some v
  | .str s => if looksInteger s then s.toInt? else none

/-- Whether the value is empty or zero. -/
def isNull : ExprValue → Bool
  | .int v => v == 0
  | .str s =>
    let body := if s.startsWith "-" then (s.drop 1).toString else s
    s.isEmpty || (!body.isEmpty && body.all (· == '0'))

end ExprValue

/-- What stops an evaluation: a malformed expression (status 2) or a failed operation
(status 2 for arithmetic, 3 otherwise), with the message. -/
structure ExprFault where
  message : String
  code : Nat := 2

/-- The evaluator's state: the tokens left. -/
abbrev ExprM := StateT (List String) (Except ExprFault)

/-- Whether the next token is `t`; it is taken when it is. -/
def takeToken (t : String) : ExprM Bool := do
  match ← get with
  | a :: rest => if a == t then set rest; pure true else pure false
  | [] => pure false

/-- The length of a text in characters of the locale. -/
def charLength (utf8 : Bool) (s : String) : Nat :=
  if utf8 then
    match Text.decode? s with
    | some t => t.length
    | none => s.length
  else s.length

/-- Match a text against a basic expression anchored at its start. -/
def exprMatch (utf8 : Bool) (s pat : String) : Except ExprFault ExprValue :=
  match Regex.parse false pat with
  | .error msg => .error ⟨msg, 2⟩
  | .ok re =>
    let cs := s.toList.toArray
    match re.matchAt cs 0 with
    | some (j, caps) =>
      if re.groups > 0 then
        match caps.get? 1 with
        | some (a, b) => .ok (.str (String.ofList ((cs.toList.drop a).take (b - a))))
        | none => .ok (.str "")
      else .ok (.int (charLength utf8 (String.ofList (cs.toList.take j))))
    | none => .ok (if re.groups > 0 then .str "" else .int 0)

mutual

/-- `a | b`. -/
def exprOr (utf8 : Bool) : Nat → ExprM ExprValue
  | 0 => throw ⟨"expression too deep", 2⟩
  | n + 1 => do
    let l ← exprAnd utf8 n
    orRest n l
where
  orRest : Nat → ExprValue → ExprM ExprValue
    | 0, l => pure l
    | k + 1, l => do
      if ← takeToken "|" then
        if (← get).isEmpty then throw ⟨"syntax error: missing argument after " ++ quoteIn utf8 "|", 2⟩
        let r ← exprAnd utf8 k
        let v := if !l.isNull then l else if !r.isNull then r else .int 0
        orRest k v
      else pure l

/-- `a & b`. -/
def exprAnd (utf8 : Bool) : Nat → ExprM ExprValue
  | 0 => throw ⟨"expression too deep", 2⟩
  | n + 1 => do
    let l ← exprCompare utf8 n
    andRest n l
where
  andRest : Nat → ExprValue → ExprM ExprValue
    | 0, l => pure l
    | k + 1, l => do
      if ← takeToken "&" then
        if (← get).isEmpty then throw ⟨"syntax error: missing argument after " ++ quoteIn utf8 "&", 2⟩
        let r ← exprCompare utf8 k
        andRest k (if l.isNull || r.isNull then .int 0 else l)
      else pure l

/-- The comparisons. -/
def exprCompare (utf8 : Bool) : Nat → ExprM ExprValue
  | 0 => throw ⟨"expression too deep", 2⟩
  | n + 1 => do
    let l ← exprSum utf8 n
    compareRest n l
where
  compareRest : Nat → ExprValue → ExprM ExprValue
    | 0, l => pure l
    | k + 1, l => do
      let ops := ["<", "<=", "=", "==", "!=", ">=", ">"]
      match ← get with
      | op :: rest =>
        if ops.contains op then
          set rest
          if rest.isEmpty then throw ⟨"syntax error: missing argument after " ++ quoteIn utf8 op, 2⟩
          let r ← exprSum utf8 k
          let c : Int := match l.asInt, r.asInt with
            | some a, some b => if a < b then -1 else if a > b then 1 else 0
            | _, _ => if l.text < r.text then -1 else if r.text < l.text then 1 else 0
          let holds : Bool := match op with
            | "<" => decide (c < 0)
            | "<=" => decide (c ≤ 0)
            | "=" | "==" => c == 0
            | "!=" => c != 0
            | ">=" => decide (c ≥ 0)
            | _ => decide (c > 0)
          compareRest k (.int (if holds then 1 else 0))
        else pure l
      | [] => pure l

/-- `+` and `-`. -/
def exprSum (utf8 : Bool) : Nat → ExprM ExprValue
  | 0 => throw ⟨"expression too deep", 2⟩
  | n + 1 => do
    let l ← exprProduct utf8 n
    sumRest n l
where
  sumRest : Nat → ExprValue → ExprM ExprValue
    | 0, l => pure l
    | k + 1, l => do
      match ← get with
      | op :: rest =>
        if op == "+" || op == "-" then
          set rest
          if rest.isEmpty then throw ⟨"syntax error: missing argument after " ++ quoteIn utf8 op, 2⟩
          let r ← exprProduct utf8 k
          match l.asInt, r.asInt with
          | some a, some b => sumRest k (.int (if op == "+" then a + b else a - b))
          | _, _ => throw ⟨"non-integer argument", 2⟩
        else pure l
      | [] => pure l

/-- `*`, `/` and `%`. -/
def exprProduct (utf8 : Bool) : Nat → ExprM ExprValue
  | 0 => throw ⟨"expression too deep", 2⟩
  | n + 1 => do
    let l ← exprColon utf8 n
    productRest n l
where
  productRest : Nat → ExprValue → ExprM ExprValue
    | 0, l => pure l
    | k + 1, l => do
      match ← get with
      | op :: rest =>
        if op == "*" || op == "/" || op == "%" then
          set rest
          if rest.isEmpty then throw ⟨"syntax error: missing argument after " ++ quoteIn utf8 op, 2⟩
          let r ← exprColon utf8 k
          match l.asInt, r.asInt with
          | some a, some b =>
            if op != "*" && b == 0 then throw ⟨"division by zero", 2⟩
            let v := if op == "*" then a * b else if op == "/" then a.tdiv b else a.tmod b
            productRest k (.int v)
          | _, _ => throw ⟨"non-integer argument", 2⟩
        else pure l
      | [] => pure l

/-- `:`. -/
def exprColon (utf8 : Bool) : Nat → ExprM ExprValue
  | 0 => throw ⟨"expression too deep", 2⟩
  | n + 1 => do
    let l ← exprUnary utf8 n
    colonRest n l
where
  colonRest : Nat → ExprValue → ExprM ExprValue
    | 0, l => pure l
    | k + 1, l => do
      if ← takeToken ":" then
        if (← get).isEmpty then throw ⟨"syntax error: missing argument after " ++ quoteIn utf8 ":", 2⟩
        let r ← exprUnary utf8 k
        match exprMatch utf8 l.text r.text with
        | .ok v => colonRest k v
        | .error e => throw e
      else pure l

/-- The keywords, parentheses and single tokens. -/
def exprUnary (utf8 : Bool) : Nat → ExprM ExprValue
  | 0 => throw ⟨"expression too deep", 2⟩
  | n + 1 => do
    match ← get with
    | [] => throw ⟨"syntax error: missing argument", 2⟩
    | t :: rest =>
      let needMore : ExprM Unit := do
        if rest.isEmpty then throw ⟨"syntax error: missing argument after " ++ quoteIn utf8 t, 2⟩
      if t == "+" then
        needMore
        match rest with
        | a :: more => set more; pure (.str a)
        | [] => pure (.str "")
      else if t == "length" then
        needMore
        set rest
        let v ← exprUnary utf8 n
        pure (.int (charLength utf8 v.text))
      else if t == "match" then
        needMore
        set rest
        let s ← exprUnary utf8 n
        let p ← exprUnary utf8 n
        match exprMatch utf8 s.text p.text with
        | .ok v => pure v
        | .error e => throw e
      else if t == "index" then
        needMore
        set rest
        let s ← exprUnary utf8 n
        let cs ← exprUnary utf8 n
        let pos : Nat := ((s.text.toList.findIdx? fun c => cs.text.toList.contains c).map (· + 1)).getD 0
        pure (.int pos)
      else if t == "substr" then
        needMore
        set rest
        let s ← exprUnary utf8 n
        let p ← exprUnary utf8 n
        let l ← exprUnary utf8 n
        match p.asInt, l.asInt with
        | some pos, some len =>
          if pos ≤ 0 || len ≤ 0 || pos.toNat > s.text.length then pure (.str "")
          else pure (.str (String.ofList ((s.text.toList.drop (pos.toNat - 1)).take len.toNat)))
        | _, _ => pure (.str "")
      else if t == "(" then
        needMore
        set rest
        let v ← exprOr utf8 n
        match ← get with
        | ")" :: more => set more; pure v
        | a :: _ => throw ⟨"syntax error: expecting ')' instead of " ++ quoteIn utf8 a, 2⟩
        | [] => throw ⟨"syntax error: expecting ')' after " ++ quoteIn utf8 (rest.getLastD t), 2⟩
      else if t == ")" then throw ⟨"syntax error: unexpected ')'", 2⟩
      else
        set rest
        pure (.str t)

end

/-- The `expr` program. -/
def exprProgram (name : String) (args : List String) : Sh Unit := do
  let args := if args.head? == some "--" then args.drop 1 else args
  if args.isEmpty then
    say name "missing operand"
    tryHelp name
    exitWith 2
  let utf8 := utf8Locale (← getShell)
  match (exprOr utf8 (4 * args.length + 8)).run args with
  | .ok (v, []) =>
    out (v.text ++ "\n")
    exitWith (if v.isNull then 1 else 0)
  | .ok (_, a :: _) =>
    say name ("syntax error: unexpected argument " ++ quoteIn utf8 a)
    exitWith 2
  | .error f =>
    say name f.message
    exitWith f.code

end Fanout.Programs
