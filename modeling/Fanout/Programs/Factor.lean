import Fanout.Programs.Basic
import Fanout.Number.Prime
import Fanout.Posix.Numeric

/-!
# `factor`

`factor` writes each number of its operands (or, when there are none, each word of standard
input) followed by a colon and its prime factors in ascending order. A number may have leading
spaces and a `+`; anything else that is not digits is refused with a message, and the status
is then 1.
-/

namespace Fanout.Programs

open Fanout.Posix Fanout.Number

/-- The number a word of `factor` names, if it is one. -/
def factorOperand (s : String) : Option Nat :=
  let cs := s.toList.dropWhile (· == ' ')
  let cs := if cs.head? == some '+' then cs.drop 1 else cs
  if !cs.isEmpty && cs.all Char.isDigit then some (digitsValue 10 cs) else none

/-- The line `factor` writes for a number. -/
def factorLine (n : Nat) : String :=
  toString n ++ ":" ++ String.join ((factorize n).map fun p => " " ++ toString p) ++ "\n"

/-- The `factor` program. -/
def factorProgram (name : String) (args : List String) : Sh Unit := do
  let (_, ops) ← options name "" true args
  let words ← if ops.isEmpty then do
      let text := Text.ofBytes (← readStdin)
      pure ((text.toList.splitBy fun a b => (a == ' ' || a == '\t' || a == '\n') ==
          (b == ' ' || b == '\t' || b == '\n')).filter (fun w => w.all fun c => !(c == ' ' || c == '\t' || c == '\n'))
        |>.map String.ofList)
    else pure ops
  let mut ok := true
  for w in words do
    match factorOperand w with
    | some n => out (factorLine n)
    | none =>
      say name ((← quoted w) ++ " is not a valid positive integer")
      ok := false
  exitWith (if ok then 0 else 1)

end Fanout.Programs
