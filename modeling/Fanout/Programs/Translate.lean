import Fanout.Programs.Basic
import Fanout.Posix.Printf
import Fanout.Posix.Pattern

/-!
# The `tr` program

`tr set1 [set2]` copies standard input to standard output, replacing each byte of `set1` by the
byte at the same place in `set2` (whose last byte is repeated when it is shorter), deleting the
bytes of `set1` (`-d`), squeezing runs of a repeated byte of the last set given (`-s`). With
`-c` the first set is its complement: every byte not in it, in increasing order.

A set is written with escapes (`\n`, `\\`, `\101`, …), ranges (`a-z`), classes
(`[:upper:]`), equivalence classes (`[=c=]`) and, in the second set, repetitions (`[c*n]`,
or `[c*]` to fill it up).
-/

namespace Fanout.Programs

open Fanout.Posix

/-- One element of a written set. -/
inductive SetPiece where
  | byte (b : Nat)
  | range (lo hi : Nat)
  | cls (name : String)
  /-- `[c*n]`; a count of zero fills the set up. -/
  | repeated (b : Nat) (count : Nat)
  deriving Inhabited, Repr

/-- Read one byte of a set, after escapes: the byte and the rest. -/
def setByte (cs : List Char) : Option (Nat × List Char) :=
  match cs with
  | '\\' :: d :: r =>
    if isOctal d then
      let ds := ((d :: r).take 3).takeWhile isOctal
      some (digitsValue 8 ds % 256, (d :: r).drop ds.length)
    else
      match escapeLetter d with
      | some b => some (b.toNat, r)
      | none => some (d.toNat, r)
  | ['\\'] => some (92, [])
  | c :: r => some (c.toNat, r)
  | [] => none

/-- Read a written set into its pieces. -/
def setPieces : Nat → List Char → Except String (List SetPiece)
  | 0, _ => .ok []
  | _ + 1, [] => .ok []
  | fuel + 1, cs =>
    let cls := match cs with
      | '[' :: ':' :: r =>
        let name := r.takeWhile (· != ':')
        match r.drop name.length with
        | ':' :: ']' :: r2 => some (SetPiece.cls (String.ofList name), r2)
        | _ => none
      | '[' :: '=' :: r =>
        match setByte r with
        | some (b, '=' :: ']' :: r2) => some (SetPiece.byte b, r2)
        | _ => none
      | '[' :: r =>
        match setByte r with
        | some (b, '*' :: r2) =>
          let ds := r2.takeWhile Char.isDigit
          match r2.drop ds.length with
          | ']' :: r3 =>
            let n := if ds.headD '1' == '0' then digitsValue 8 ds else digitsValue 10 ds
            some (SetPiece.repeated b n, r3)
          | _ => none
        | _ => none
      | _ => none
    match cls with
    | some (p, r) => (setPieces fuel r).map (p :: ·)
    | none =>
      match setByte cs with
      | some (lo, '-' :: r) =>
        match setByte r with
        | some (hi, r2) =>
          if hi < lo then
            .error ("range-endpoints of " ++ String.ofList (cs.take (cs.length - r2.length)) ++
              " are in reverse collating sequence order")
          else (setPieces fuel r2).map (SetPiece.range lo hi :: ·)
        | none => (setPieces fuel ['-']).map (SetPiece.byte lo :: ·)
      | some (b, r) => (setPieces fuel r).map (SetPiece.byte b :: ·)
      | none => .ok []

/-- The bytes of a set, in order; a fill-up repetition takes what `room` leaves. -/
def setBytes (ps : List SetPiece) (room : Nat) : List Nat :=
  let fixed := ps.foldl (fun n p => match p with
    | .byte _ => n + 1
    | .range lo hi => n + (hi + 1 - lo)
    | .cls name => n + ((List.range 256).filter fun b => inClass name (Char.ofNat b)).length
    | .repeated _ k => n + k) 0
  ps.flatMap fun p => match p with
    | .byte b => [b]
    | .range lo hi => (List.range (hi + 1 - lo)).map (lo + ·)
    | .cls name => (List.range 256).filter fun b => inClass name (Char.ofNat b)
    | .repeated b k => List.replicate (if k == 0 then room - fixed else k) b

/-- Squeeze runs of a byte of `squeeze` into one. -/
def squeezeRuns (squeeze : List Nat) (bs : List Nat) : List Nat :=
  (bs.foldl (fun (acc : List Nat) b => match acc with
    | p :: _ => if p == b && squeeze.contains b then acc else b :: acc
    | [] => [b]) []).reverse

/-- The `tr` program. -/
def trProgram (name : String) (args : List String) : Sh Unit := do
  let (opts, ops) ← options name "cCdst" true args
    [("complement", 'c'), ("delete", 'd'), ("squeeze-repeats", 's'), ("truncate-set1", 't')]
  let complement := hasOpt opts 'c' || hasOpt opts 'C'
  let delete := hasOpt opts 'd'
  let squeeze := hasOpt opts 's'
  match ops with
  | [] => usageError name "missing operand"
  | [s1] =>
    if !delete && !squeeze then
      say name ("missing operand after " ++ (← quoted s1))
      err "Two strings must be given when translating.\n"
      tryHelp name
      exitWith 1
  | [_, s2] =>
    if delete && !squeeze then
      say name ("extra operand " ++ (← quoted s2))
      err "Only one string may be given when deleting without squeezing repeated characters.\n"
      tryHelp name
      exitWith 1
  | _ :: _ :: extra :: _ => usageError name ("extra operand " ++ (← quoted extra))
  let pieces ← ops.mapM fun s => match setPieces (s.length + 1) s.toList with
    | .ok ps => pure ps
    | .error msg => do
      say name msg
      exitWith 1
  let set1 := setBytes (pieces.headD []) 256
  let set1 := if complement then (List.range 256).filter (!set1.contains ·) else set1
  let input := (← readStdin).map (·.toNat)
  let result :=
    if delete then
      let kept := input.filter (!set1.contains ·)
      if squeeze then squeezeRuns (setBytes (pieces.getD 1 []) 256) kept else kept
    else
      match pieces with
      | [_, p2] =>
        let set2 := setBytes p2 set1.length
        let set1 := if hasOpt opts 't' then set1.take set2.length else set1
        let last := set2.getLastD 0
        let map := set1.zip (set2 ++ List.replicate (set1.length - set2.length) last)
        let mapped := input.map fun b =>
          match (map.reverse.find? (·.1 == b)) with
          | some (_, c) => c
          | none => b
        if squeeze then squeezeRuns set2 mapped else mapped
      | _ => squeezeRuns set1 input
  emit (result.map Nat.toUInt8)
  exitWith 0

end Fanout.Programs
