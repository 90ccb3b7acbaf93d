import Fanout.Posix.Numeric

/-!
# Awk programs and values

An awk program is a list of pattern–action items and of functions. A pattern is `BEGIN`, `END`,
an expression, a range of two expressions, or nothing (every record); an action is a block of
statements, and an item without one prints the record.

Values are numbers (binary64), strings, and the strings read from input that look like numbers
("strnums"), which compare as numbers. A variable never set is both the empty string and zero.
A number becomes a string by `%d` when it is a whole number of 64-bit range, else by the format
`CONVFMT` (or `OFMT` for `print`).
-/

namespace Fanout.Awk

open Fanout.Posix

/-- An expression. -/
inductive Expr where
  | num (v : Float)
  | str (s : String)
  /-- `/re/` on its own: whether the record matches. -/
  | regex (src : String)
  | var (name : String)
  | field (e : Expr)
  | index (name : String) (subs : List Expr)
  /-- `lhs op= rhs`; `op` is empty for a plain assignment. -/
  | assign (op : String) (lhs : Expr) (rhs : Expr)
  | cond (c a b : Expr)
  | and (a b : Expr)
  | or (a b : Expr)
  /-- `a ~ re`, or `a !~ re` when `negated`. -/
  | matches (negated : Bool) (a re : Expr)
  /-- Arithmetic (`+ - * / % ^`) and comparisons (`< <= > >= == !=`). -/
  | binary (op : String) (a b : Expr)
  | concat (a b : Expr)
  | not (a : Expr)
  | neg (a : Expr)
  | plus (a : Expr)
  /-- `++x`, `x++`, `--x`, `x--`. -/
  | step (pre : Bool) (up : Bool) (lhs : Expr)
  /-- `(subs) in arr`. -/
  | member (subs : List Expr) (arr : String)
  | call (name : String) (args : List Expr)
  /-- `getline`, `getline var`, `getline < file`, `getline var < file`. -/
  | getline (target : Option Expr) (source : Option Expr)
  /-- `cmd | getline` and `cmd | getline var`: a record of the output of a command. -/
  | pipeGetline (cmd : Expr) (target : Option Expr)
  /-- Parentheses, kept so that `(a, b) in arr` and `print (a)(b)` read right. -/
  | group (e : Expr)
  deriving Inhabited, Repr

/-- Where `print` writes: standard output, or a file written anew or appended to. -/
inductive Dest where
  | stdout
  | file (append : Bool) (name : Expr)
  | pipe (cmd : Expr)
  deriving Inhabited, Repr

/-- A statement. -/
inductive Stmt where
  | expr (e : Expr)
  | print (args : List Expr) (dest : Dest)
  | printf (args : List Expr) (dest : Dest)
  | ifElse (c : Expr) (yes : Stmt) (no : Option Stmt)
  | while (c : Expr) (body : Stmt)
  | doWhile (body : Stmt) (c : Expr)
  | forC (init : Option Stmt) (c : Option Expr) (step : Option Stmt) (body : Stmt)
  | forIn (var : String) (arr : String) (body : Stmt)
  | block (body : List Stmt)
  | next
  | exit (code : Option Expr)
  | brk
  | cont
  | ret (v : Option Expr)
  /-- `delete arr[subs]`, or the whole array. -/
  | delete (arr : String) (subs : Option (List Expr))
  deriving Inhabited, Repr

/-- When an item runs. -/
inductive Pattern where
  | always
  | begin
  | finish
  | test (e : Expr)
  | range (a b : Expr)
  deriving Inhabited, Repr

/-- A pattern with its action; none prints the record. -/
structure Item where
  pattern : Pattern
  action : Option Stmt
  deriving Inhabited, Repr

/-- A function: its parameters (the extra ones are its locals) and its body. -/
structure Function where
  name : String
  params : List String
  body : Stmt
  deriving Inhabited, Repr

/-- A whole program. -/
structure Program where
  items : List Item
  functions : List Function
  deriving Inhabited, Repr

/-! ## Values -/

/-- A value. -/
inductive Value where
  | num (v : Float)
  | str (s : String)
  /-- A string from input that looks like a number. -/
  | strnum (s : String) (v : Float)
  | unset
  deriving Inhabited, Repr

/-- The bits of a binary64 number as a floating-point value. A not-a-number counts as negative:
the processor makes them with the sign bit set, and a `Float` does not keep the sign of one. -/
def floatValueOf (x : Float) : FloatValue :=
  let bits := x.toBits.toNat
  let neg := bits ≥ Nat.pow 2 63
  let expo := (bits / Nat.pow 2 52) % 2048
  let mant := bits % Nat.pow 2 52
  if expo == 2047 then (if mant == 0 then .inf neg else .nan true)
  else if expo == 0 then .finite neg mant (-1074)
  else .finite neg (mant + Nat.pow 2 52) ((expo : Int) - 1075)

/-- The binary64 number of a floating-point value held in that format. -/
def floatOf (v : FloatValue) : Float :=
  match v with
  | .finite neg m e =>
    let x := (Float.ofNat m).scaleB e
    if neg then -x else x
  | .inf neg => if neg then -(1.0 / 0.0) else 1.0 / 0.0
  | .nan _ => 0.0 / 0.0

/-- Read the number at the front of a text as the C library does (after blanks): its value and
how many characters it takes (zero when there is none). -/
def scanNumber (s : String) : Float × Nat :=
  let cs := s.toList
  let lead := (cs.takeWhile fun c => c == ' ' || c == '\t' || c == '\n' || c == '\r' ||
    c == '\x0b' || c == '\x0c').length
  let (v, used, _) := scanFloat .double (cs.drop lead)
  if used == 0 then (0.0, 0) else (floatOf v, lead + used)

/-- The number a text stands for: its leading number, or zero. -/
def textNumber (s : String) : Float := (scanNumber s).1

/-- Whether a text from input looks like a number: blanks, a number, blanks, and nothing else. -/
def looksNumeric (s : String) : Bool :=
  let (_, used) := scanNumber s
  used > 0 && (s.toList.drop used).all fun c => c == ' ' || c == '\t' || c == '\n' || c == '\r'

/-- A string from input: a strnum when it looks like a number. -/
def Value.ofInput (s : String) : Value :=
  if looksNumeric s then .strnum s (textNumber s) else .str s

/-- The number of a value. -/
def Value.toNum : Value → Float
  | .num v => v
  | .str s => textNumber s
  | .strnum _ v => v
  | .unset => 0.0

/-- Whether a value counts as true: a nonzero number, or a nonempty string. -/
def Value.truth : Value → Bool
  | .num v => v != 0.0
  | .str s => !s.isEmpty
  | .strnum _ v => v != 0.0
  | .unset => false

/-- The integer part of a number below `2^63` in size. -/
def wholeInt (v : Float) : Int :=
  let n := (v.abs.toUInt64).toNat
  if v < 0.0 then -(n : Int) else n

/-- The integer a number comes to as a C `long`: truncated, and held within `-(2^63 - 1)` and
`2^63 - 1` (not a number goes to the bottom). -/
def longOf (v : Float) : Int :=
  if v ≥ 9223372036854775808.0 then 9223372036854775807
  else if v > -9223372036854775808.0 then wholeInt v
  else -9223372036854775807

/-- A number as text by a conversion like `%.6g`. -/
def formatNumber (fmt : ConvSpec) (v : Float) : String :=
  formatFloat .double fmt (floatValueOf v)

/-- Read a simple format such as `%.6g` into its conversion; others read as `%.6g`. -/
def numberFormat (fmt : String) : ConvSpec :=
  match fmt.toList with
  | '%' :: '.' :: rest =>
    let ds := rest.takeWhile Char.isDigit
    match rest.drop ds.length with
    | [c] =>
      if "eEfFgG".toList.contains c then { precision := some (digitsValue 10 ds), conv := c }
      else { precision := some 6, conv := 'g' }
    | _ => { precision := some 6, conv := 'g' }
  | _ => { precision := some 6, conv := 'g' }

/-- A number as text: one its `long` stands for exactly as that integer, any other by the
format. -/
def numText (fmt : String) (v : Float) : String :=
  let i := longOf v
  if Float.ofInt i == v then toString i
  else formatNumber (numberFormat fmt) v

/-- The string of a value, numbers converted by the format. -/
def Value.toStr (fmt : String) : Value → String
  | .num v => numText fmt v
  | .str s => s
  | .strnum s _ => s
  | .unset => ""

/-- Whether a value compares as a number. -/
def Value.numeric : Value → Bool
  | .num _ | .strnum _ _ | .unset => true
  | .str _ => false

/-- Compare two values: as numbers when both are numeric, else as strings. -/
def Value.compare (fmt : String) (a b : Value) : Ordering :=
  if a.numeric && b.numeric then
    let x := a.toNum
    let y := b.toNum
    if x < y then .lt else if y < x then .gt else .eq
  else
    let s := a.toStr fmt
    let t := b.toStr fmt
    if s < t then .lt else if t < s then .gt else .eq

end Fanout.Awk
