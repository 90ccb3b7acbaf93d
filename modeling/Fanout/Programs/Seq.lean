import Fanout.Programs.Basic
import Fanout.Posix.Numeric

/-!
# The `seq` program

`seq [first [step]] last` writes the numbers `first`, `first + step`, … up to `last`, each
followed by the separator (`-s`, a newline by default) except the last, which ends with a
newline.

Operands that are plain decimal integers are counted exactly. Others are `long double` values:
the `i`-th number is `first + i · step`, each operation rounded to extended precision, and each
is written with the format given by `-f`, or with `%.pLf` where `p` is the largest number of
decimals of `first` and `step`. With `-w` the numbers are padded with zeros to one width.
-/

namespace Fanout.Programs

open Fanout.Posix

/-- What `seq` learns of an operand: its value, the width it is written in, and its number of
decimals (none when it has no fixed number: hexadecimal or infinite). -/
structure SeqOperand where
  value : FloatValue
  width : Nat
  precision : Option Nat

/-- Read an operand; none when it is not wholly a number. -/
def seqOperand (arg : String) : Option SeqOperand :=
  let (v, used, range) := scanFloat .extended arg.toList
  if used == 0 || used < arg.length || range then none
  else
    let shown := (arg.toList.dropWhile fun c => isBlankC c || c == '+')
    match v with
    | .nan _ => none
    | .inf _ => some ⟨v, 0, none⟩
    | _ =>
      if shown.any (fun c => c == 'x' || c == 'X') then some ⟨v, 0, none⟩
      else
        let total := shown.length
        let point := shown.findIdx? (· == '.')
        let (prec0, width0, fractionLen) : Int × Int × Nat := match point with
          | none => (0, total, 0)
          | some i =>
            let frac := (shown.drop (i + 1)).takeWhile fun c => c != 'e' && c != 'E'
            let before := if i == 0 then none else shown[i - 1]?
            let bump : Int := if frac.isEmpty then -1
              else if before.all (!·.isDigit) then 1 else 0
            (frac.length, total + bump, frac.length)
        let ePos := shown.findIdx? fun c => c == 'e' || c == 'E'
        match ePos with
        | none => some ⟨v, width0.toNat, some prec0.toNat⟩
        | some j =>
          let (eneg, eds) := takeSign (shown.drop (j + 1))
          let ev : Int := (digitsValue 10 (eds.takeWhile Char.isDigit) : Int)
          let exponent := if eneg then -ev else ev
          let prec := prec0 + (if exponent < 0 then -exponent else -(min prec0 exponent))
          let width := width0 - (total - j : Nat)
          let (width, shift) : Int × Int :=
            if exponent < 0 then
              let w := match point with
                | some i => if j == i + 1 then width + 1 else width
                | none => width + 1
              (w, -exponent)
            else
              let w := if point.isSome && prec == 0 && fractionLen > 0 then width - 1 else width
              (w, -(min prec0 exponent))
          some ⟨v, (width + shift).toNat, some prec.toNat⟩

/-- A format given to `-f`: the text before its one conversion, the conversion, and the text
after; or the message that rejects it. -/
def seqFormat (fmt : String) : Except String (String × ConvSpec × String) :=
  let cs := fmt.toList
  let rec lead : Nat → List Char → String → Except String (String × List Char)
    | 0, _, acc => .ok (acc, [])
    | _ + 1, [], _ => .error "has no % directive"
    | k + 1, '%' :: '%' :: r, acc => lead k r (acc.push '%')
    | _ + 1, '%' :: r, acc => .ok (acc, r)
    | k + 1, c :: r, acc => lead k r (acc.push c)
  let rec trail : Nat → List Char → String → Except String String
    | 0, _, acc => .ok acc
    | _ + 1, [], acc => .ok acc
    | k + 1, '%' :: '%' :: r, acc => trail k r (acc.push '%')
    | _ + 1, '%' :: _, _ => .error "has too many % directives"
    | k + 1, c :: r, acc => trail k r (acc.push c)
  match lead (cs.length + 1) cs "" with
  | .error e => .error e
  | .ok (pre, r) =>
    let flags := r.takeWhile fun c => "-+#0 '".toList.contains c
    let r := r.drop flags.length
    let wd := r.takeWhile Char.isDigit
    let r := r.drop wd.length
    let (prec, r) := match r with
      | '.' :: r2 =>
        let pd := r2.takeWhile Char.isDigit
        (some (digitsValue 10 pd), r2.drop pd.length)
      | _ => (none, r)
    let r := match r with
      | 'L' :: r2 => r2
      | _ => r
    match r with
    | [] => .error "ends in %"
    | c :: rest =>
      if !"efgaEFGA".toList.contains c then
        .error ("has unknown %" ++ String.singleton c ++ " directive")
      else
        match trail (rest.length + 1) rest "" with
        | .error e => .error e
        | .ok post =>
          .ok (pre, { left := flags.contains '-', plus := flags.contains '+',
                      space := flags.contains ' ', alt := flags.contains '#',
                      zero := flags.contains '0',
                      width := if wd.isEmpty then none else some (digitsValue 10 wd),
                      precision := prec, conv := c }, post)

/-- The numbers from `first` by `step` while they do not pass `last`, at most `fuel` of them,
written with `show`; a number just past `last` is written too when it reads back as `last` and
is written differently from the one before. -/
def seqFloats (render : FloatValue → String) (first step last : FloatValue) (readBack : String → Option FloatValue) :
    Nat → Nat → FloatValue → List String → List String
  | 0, _, _, acc => acc.reverse
  | fuel + 1, i, x, acc =>
    let acc := render x :: acc
    let next := first.add (step.scale i)
    let past := if step.isNeg then next.lt last else last.lt next
    if !past then seqFloats render first step last readBack fuel (i + 1) next acc
    else
      let text := render next
      match readBack text with
      | some v =>
        if v.same last && text != render x then (text :: acc).reverse else acc.reverse
      | none => acc.reverse

/-- Whether an operand is a plain run of decimal digits. -/
def allDigits (s : String) : Bool := !s.isEmpty && s.all Char.isDigit

/-- The `seq` program. -/
def seqProgram (name : String) (args : List String) : Sh Unit := do
  -- Options come first; a word like `-1` or `-.5` is a number and ends them.
  let longs := [("format", 'f'), ("separator", 's'), ("equal-width", 'w')]
  let rec takeOpts : Nat → List String → List (Char × String) →
      Except OptionError (List (Char × String) × List String)
    | 0, ws, acc => .ok (acc.reverse, ws)
    | _ + 1, [], acc => .ok (acc.reverse, [])
    | k + 1, w :: ws, acc =>
      let negNumber := match w.toList with
        | '-' :: c :: _ => c == '.' || c.isDigit
        | _ => false
      if negNumber || !w.startsWith "-" || w == "-" then .ok (acc.reverse, w :: ws)
      else if w == "--" then .ok (acc.reverse, ws)
      else
        match getopt "f:s:w" false longs 1 [w] with
        | .ok (os, _) => takeOpts k ws (os.reverse ++ acc)
        | .error e =>
          let missing := match e with
            | .needsArgument _ | .needsArgumentLong _ => true
            | _ => false
          match missing, ws with
          | true, v :: more =>
            match getopt "f:s:w" false longs 2 [w, v] with
            | .ok (os, _) => takeOpts k more (os.reverse ++ acc)
            | .error _ => .error e
          | _, _ => .error e
  let (opts, ops) ← match takeOpts (args.length + 1) args [] with
    | .ok r => pure r
    | .error e => optionFailure name e
  let sep := (optArg opts 's').getD "\n"
  let equal := hasOpt opts 'w'
  let fmt := optArg opts 'f'
  if ops.isEmpty then usageError name "missing operand"
  if ops.length > 3 then usageError name ("extra operand " ++ (← quoted (ops.getD 3 "")))
  if fmt.isSome && equal then
    say name "format string may not be specified when printing equal width strings"
    tryHelp name
    exitWith 1
  let mut scanned : List SeqOperand := []
  for o in ops do
    match seqOperand o with
    | some v => scanned := scanned ++ [v]
    | none =>
      say name ("invalid floating point argument: " ++ (← quoted o))
      tryHelp name
      exitWith 1
  let one : SeqOperand := ⟨.finite false 1 0, 1, some 0⟩
  let (first, step, last) := match scanned with
    | [l] => (one, one, l)
    | [f, l] => (f, one, l)
    | f :: s :: l :: _ => (f, s, l)
    | [] => (one, one, one)
  if ops.length == 3 && step.value.same (.finite false 0 0) then
    say name ("invalid Zero increment value: " ++ (← quoted (ops.getD 1 "")))
    tryHelp name
    exitWith 1
  let firstText := if ops.length ≥ 2 then ops.getD 0 "" else "1"
  let stepText := if ops.length == 3 then ops.getD 1 "" else "1"
  let lastText := ops.getLast?.getD ""
  -- Plain integers are counted exactly.
  if fmt.isNone && !equal && allDigits firstText && allDigits stepText && allDigits lastText then
    let a := digitsValue 10 firstText.toList
    let s := digitsValue 10 stepText.toList
    let b := digitsValue 10 lastText.toList
    if a ≤ b && s > 0 then
      let count := (b - a) / s + 1
      let nums := (List.range count).map fun i => toString (a + i * s)
      out (sep.intercalate nums ++ "\n")
    exitWith 0
  let (pre, sp, post) ← match fmt with
    | some f =>
      match seqFormat f with
      | .ok r => pure r
      | .error msg => do
        say name ("format " ++ (← quoted f) ++ " " ++ msg)
        exitWith 1
    | none =>
      match first.precision, step.precision, last.precision with
      | some p1, some p2, some p3 =>
        let prec := max p1 p2
        if equal then
          let firstWidth := first.width + (prec - p1) + (if p1 == 0 && prec > 0 then 1 else 0)
          let lastWidth := last.width + (prec - p3)
          let lastWidth := if p3 > 0 && prec == 0 then lastWidth - 1 else lastWidth
          let lastWidth := if p3 == 0 && prec > 0 then lastWidth + 1 else lastWidth
          let padded : ConvSpec :=
            { zero := true, width := some (max firstWidth lastWidth), precision := some prec, conv := 'f' }
          pure ("", padded, "")
        else pure ("", ({ precision := some prec, conv := 'f' } : ConvSpec), "")
      | _, _, _ => pure ("", ({ conv := 'g' } : ConvSpec), "")
  let render := fun (v : FloatValue) => pre ++ formatFloat .extended sp v ++ post
  let readBack := fun (t : String) =>
    let body := ((t.drop pre.length).toString.take (t.length - pre.length - post.length)).toString
    let (v, used, _) := scanFloat .extended body.toList
    if used == body.length && used > 0 then some v else none
  let past := if step.value.isNeg then first.value.lt last.value else last.value.lt first.value
  if past then exitWith 0
  let nums := seqFloats render first.value step.value last.value readBack 100000 1 first.value []
  out (sep.intercalate nums ++ "\n")
  exitWith 0

/-- The `yes` program: its operands joined by spaces (`y` when there are none) as a line, written
again and again until the output fails. -/
def yesProgram (name : String) (args : List String) : Sh Unit := do
  let (_, ops) ← options name "" false args
  let line := Text.toBytes ((if ops.isEmpty then "y" else " ".intercalate ops) ++ "\n")
  let copies := 4096 / line.length + 1
  emitForever (fun why => name ++ ": standard output: " ++ why)
    ((List.replicate copies line).flatten)

end Fanout.Programs
