import Fanout.Awk.Parse
import Fanout.Text.Regex

/-!
# Running awk programs

The interpreter keeps the variables, the arrays, the record and its fields, the input still to
read, and what the program asked of its surroundings (output, files, commands), in order.

Records are read from the operands in turn; an operand `name=value` assigns instead. `RS` cuts
the input into records: a newline by default, any one character, a regular expression, or
(when empty) blank lines. `FS` cuts a record into fields: runs of blanks by default (leading
and trailing ones ignored), any other single character as it is, a regular expression when
longer, and each character when empty. Setting a field rebuilds the record with `OFS`;
setting `NF` cuts or pads the fields.

Every loop and call takes a step of a bounded supply, so a run always ends; a program that
runs out is stopped with a message.
-/

namespace Fanout.Awk

open Fanout.Posix Fanout.Text

/-- Where a function's local lives: a value, or an array stored under a name. -/
inductive Slot where
  | scalar (v : Value)
  | array (storage : String)
  deriving Inhabited

/-- What the program asks of its surroundings, in the order it asks. -/
inductive Effect where
  | out (s : String)
  | err (s : String)
  /-- Write to a file; `fresh` when the file is opened anew (and emptied). -/
  | toFile (name : String) (fresh : Bool) (s : String)
  | toPipe (cmd : String) (s : String)
  | system (cmd : String)
  | close (name : String)
  deriving Inhabited, Repr

/-- An operand: a file with its contents, an assignment, or a file that cannot be read. -/
inductive Source where
  | file (name : String) (content : String)
  | assign (name : String) (value : String)
  | missing (name : String)
  deriving Inhabited

/-- What stops evaluation: a run-time error (its message and the status), or `exit` or `next`
inside a function, which unwind to the record loop. -/
structure Fault where
  message : String := ""
  code : Nat := 2
  exiting : Bool := false
  nexting : Bool := false
  deriving Inhabited

/-- How a statement ended. -/
inductive Flow where
  | normal
  | next
  | exit
  | brk
  | cont
  | ret (v : Value)
  deriving Inhabited

/-- The state of a run. -/
structure State where
  vars : List (String × Value) := []
  arrays : List (String × List (String × Value)) := []
  record : String := ""
  fields : Array Value := #[]
  frames : List (List (String × Slot)) := []
  effects : Array Effect := #[]
  pending : List String := []
  sources : List Source := []
  /-- Files read by `getline <`: the records left of each. -/
  readers : List (String × List String) := []
  openFiles : List String := []
  ranges : List Nat := []
  exitCode : Nat := 0
  seed : Nat := 0
  lastSeed : Float := 0.0
  fresh : Nat := 0
  steps : Nat := 0
  /-- What the run wrote to each file, so that reading one back sees it. -/
  written : List (String × String) := []
  /-- Commands read by `cmd | getline`: the records of their output left. -/
  piped : List (String × List String) := []
  deriving Inhabited

/-- What a run reads but does not change: the program, a way to read a file, and a way to
run a command for its output (against the system as it was when the run began). -/
structure Env where
  program : Program
  readFile : String → Option String
  capture : String → String

/-- The interpreter's monad; the state outlives an error, so what was written before it stays. -/
abbrev M := ReaderT Env (ExceptT Fault (StateM State))

/-- How many steps a run may take. -/
def stepLimit : Nat := 3000000

/-- Take a step, or stop the run when none is left. -/
def tick : M Unit := do
  let st ← get
  if st.steps ≥ stepLimit then throw { message := "program ran too long", code := 2 }
  set { st with steps := st.steps + 1 }

/-- Record an effect. -/
def emit (e : Effect) : M Unit := modify fun st => { st with effects := st.effects.push e }

/-! ## Cutting text -/

/-- Whether a character is a blank of the default field splitting. -/
def isFieldBlank (c : Char) : Bool := c == ' ' || c == '\t' || c == '\n'

/-- Split at every match of a regular expression (empty matches do not split). -/
def splitRegex (re : Regex) (s : String) : List String :=
  let cs := s.toList.toArray
  let rec go : Nat → Nat → Nat → List String → List String
    | 0, start, _, acc => (String.ofList (cs.toList.drop start) :: acc).reverse
    | fuel + 1, start, from_, acc =>
      match re.search cs from_ with
      | some (a, b, _) =>
        if b == a then
          if a + 1 ≤ cs.size then go fuel start (a + 1) acc
          else (String.ofList (cs.toList.drop start) :: acc).reverse
        else go fuel b b (String.ofList ((cs.toList.drop start).take (a - start)) :: acc)
      | none => (String.ofList (cs.toList.drop start) :: acc).reverse
  go (cs.size + 2) 0 0 []

/-- Split a record into fields by `fs`; in paragraph mode a newline also separates. -/
def splitFields (fs : String) (paragraph : Bool) (s : String) : List String :=
  if s.isEmpty then []
  else if fs == " " then
    let words := (s.toList.splitBy fun a b => isFieldBlank a == isFieldBlank b)
    (words.filter fun w => !(w.all isFieldBlank)).map String.ofList
  else
    let pieces :=
      if fs.isEmpty then s.toList.map String.singleton
      else if fs.length == 1 && fs != "\\" then s.splitOn fs
      else
        match Regex.parse true fs with
        | .ok re => splitRegex re s
        | .error _ => [s]
    if paragraph then pieces.flatMap (·.splitOn "\n") else pieces

/-- Cut input into records by `rs`. -/
def splitRecords (rs : String) (text : String) : List String :=
  if text.isEmpty then []
  else if rs.isEmpty then
    let ls := text.splitOn "\n"
    let paras := (ls.splitBy fun a b => a.isEmpty == b.isEmpty).filter fun g => !(g.all String.isEmpty)
    paras.map ("\n".intercalate ·)
  else
    let pieces :=
      if rs.length == 1 then text.splitOn rs
      else
        match Regex.parse true rs with
        | .ok re => splitRegex re text
        | .error _ => text.splitOn rs
    match pieces.getLast? with
    | some "" => pieces.dropLast
    | _ => pieces

/-! ## Variables and fields -/

/-- A global variable's value. -/
def globalVar (name : String) : M Value := do
  let st ← get
  if name == "NF" then pure (.num (Float.ofNat st.fields.size))
  else pure ((st.vars.lookup name).getD .unset)

/-- A variable's value: a local of the running function, or a global. -/
def getVar (name : String) : M Value := do
  match (← get).frames with
  | frame :: _ =>
    match frame.lookup name with
    | some (.scalar v) => pure v
    | some (.array s) =>
      -- an array passed by reference that was never used reads as an unset value
      if (((← get).arrays.lookup s).getD []).isEmpty then pure .unset
      else throw { message := "can't use array " ++ name ++ " in scalar context" }
    | none => globalVar name
  | [] => globalVar name

/-- The text of a variable with the conversion of numbers. -/
def convfmt : M String := do
  pure ((← globalVar "CONVFMT").toStr "%.6g")

/-- A value as text, numbers by `CONVFMT`. -/
def strOf (v : Value) : M String := do pure (v.toStr (← convfmt))

/-- Put the record together again from its fields with `OFS`. -/
def rebuildRecord : M Unit := do
  let ofs := (← globalVar "OFS").toStr "%.6g"
  let fmt ← convfmt
  modify fun st => { st with record := ofs.intercalate (st.fields.toList.map (·.toStr fmt)) }

/-- Set the record and cut it into fields. -/
def setRecord (s : String) : M Unit := do
  let fs := (← globalVar "FS").toStr "%.6g"
  let paragraph := ((← globalVar "RS").toStr "%.6g").isEmpty
  let fields := (splitFields fs paragraph s).map Value.ofInput
  modify fun st => { st with record := s, fields := fields.toArray }

/-- Set `NF`: cut the fields or pad them with empty ones, and rebuild the record. -/
def setNF (n : Nat) : M Unit := do
  modify fun st =>
    { st with fields := (st.fields.toList.take n ++ List.replicate (n - st.fields.size) (Value.str "")).toArray }
  rebuildRecord

/-- Set a global variable (`NF` resizes the record). -/
def setGlobal (name : String) (v : Value) : M Unit := do
  if name == "NF" then
    let n := v.toNum
    setNF (if n < 0.0 then 0 else (wholeInt n.floor).toNat)
  else modify fun st => { st with vars := (name, v) :: st.vars.filter (·.1 != name) }

/-- Set a variable: a local of the running function, or a global. -/
def setVar (name : String) (v : Value) : M Unit := do
  match (← get).frames with
  | frame :: more =>
    if frame.any (·.1 == name) then
      modify fun st => { st with frames := (frame.map fun (k, s) => if k == name then (k, .scalar v) else (k, s)) :: more }
    else setGlobal name v
  | [] => setGlobal name v

/-- Field `k`: the record for 0, empty beyond `NF`. -/
def getField (k : Nat) : M Value := do
  let st ← get
  if k == 0 then pure (Value.ofInput st.record)
  else pure (st.fields.getD (k - 1) .unset)

/-- Set field `k`; 0 sets the record. -/
def setField (k : Nat) (v : Value) : M Unit := do
  if k == 0 then setRecord (← strOf v)
  else
    let st ← get
    let padded := if k > st.fields.size then
        st.fields.toList ++ List.replicate (k - st.fields.size) (Value.str "")
      else st.fields.toList
    set { st with fields := (padded.set (k - 1) v).toArray }
    rebuildRecord

/-- The storage name of an array: a local array of the running function, or the global one. A
local never used before becomes a fresh array. -/
def arrayStorage (name : String) : M String := do
  match (← get).frames with
  | frame :: more =>
    match frame.lookup name with
    | some (.array s) => pure s
    | some (.scalar .unset) =>
      let st ← get
      let s := "\x00" ++ toString st.fresh ++ name
      set { st with fresh := st.fresh + 1,
                    frames := (frame.map fun (k, x) => if k == name then (k, .array s) else (k, x)) :: more }
      pure s
    | some (.scalar _) => throw { message := "can't use scalar " ++ name ++ " as array" }
    | none => pure name
  | [] => pure name

/-- The elements of an array. -/
def arrayOf (storage : String) : M (List (String × Value)) := do
  pure (((← get).arrays.lookup storage).getD [])

/-- Replace the elements of an array. -/
def setArray (storage : String) (els : List (String × Value)) : M Unit := do
  modify fun st => { st with arrays := (storage, els) :: st.arrays.filter (·.1 != storage) }

/-- An element of an array; reading one creates it. -/
def getElement (storage key : String) : M Value := do
  let els ← arrayOf storage
  match els.lookup key with
  | some v => pure v
  | none =>
    setArray storage (els ++ [(key, .unset)])
    pure .unset

/-- Set an element of an array. -/
def setElement (storage key : String) (v : Value) : M Unit := do
  let els ← arrayOf storage
  if els.any (·.1 == key) then setArray storage (els.map fun (k, x) => if k == key then (k, v) else (k, x))
  else setArray storage (els ++ [(key, v)])

/-- The next record of the input, reading the operands in turn: its text, or none at the end. -/
def nextRecord : M (Option String) := do
  let rec go : Nat → M (Option String)
    | 0 => pure none
    | k + 1 => do
      let st ← get
      match st.pending with
      | r :: rest =>
        set { st with pending := rest }
        let nr := (← globalVar "NR").toNum
        let fnr := (← globalVar "FNR").toNum
        setGlobal "NR" (.num (nr + 1.0))
        setGlobal "FNR" (.num (fnr + 1.0))
        pure (some r)
      | [] =>
        match st.sources with
        | [] => pure none
        | src :: more =>
          set { st with sources := more }
          match src with
          | .assign n v =>
            setGlobal n (Value.ofInput v)
            go k
          | .missing n =>
            throw { message := "cannot open " ++ n ++ " (No such file or directory)" }
          | .file n content =>
            let rs := (← globalVar "RS").toStr "%.6g"
            modify fun st => { st with pending := splitRecords rs content }
            setGlobal "FILENAME" (.str n)
            setGlobal "FNR" (.num 0.0)
            go k
  go ((← get).sources.length + (← get).pending.length + 2)

/-! ## Formatting -/

/-- The integer part of a number, exactly. -/
def floatToInt (v : Float) : Int :=
  match floatValueOf v with
  | .finite neg m e =>
    let mag : Nat := if e ≥ 0 then m * Nat.pow 2 e.toNat else m / Nat.pow 2 (-e).toNat
    if neg then -(mag : Int) else mag
  | .inf neg => if neg then -intmaxMax - 1 else intmaxMax
  | .nan _ => -intmaxMax - 1

/-- `printf`'s formatting of values (`who` is `printf` or `sprintf`): the text, and the error
that stopped it, if any. A conversion with no value left, or an unknown conversion letter, is
an error; the text before it was already made. -/
def formatValues (who fmt : String) (convFmt : String) (args : List Value) : String × Option String :=
  let shown := who ++ "(\"" ++ fmt ++ "\")"
  let rec go : Nat → Nat → List Char → List Value → String → String × Option String
    | 0, _, _, _, acc => (acc, none)
    | _ + 1, _, [], _, acc => (acc, none)
    | fuel + 1, k, '%' :: '%' :: rest, args, acc => go fuel (k + 1) rest args (acc.push '%')
    | fuel + 1, k, '%' :: rest, args, acc =>
      let flags := rest.takeWhile fun c => "#-+ 0".toList.contains c
      let r := rest.drop flags.length
      let sp : ConvSpec :=
        { left := flags.contains '-', zero := flags.contains '0', plus := flags.contains '+',
          space := flags.contains ' ', alt := flags.contains '#' }
      let (sp, r, args) : ConvSpec × List Char × List Value := match r with
        | '*' :: r2 =>
          let w := longOf ((args.headD .unset).toNum)
          ({ sp with width := some w.natAbs, left := sp.left || w < 0 }, r2, args.drop 1)
        | _ =>
          let ds := r.takeWhile Char.isDigit
          ({ sp with width := if ds.isEmpty then none else some (digitsValue 10 ds) }, r.drop ds.length, args)
      let (sp, r, args) : ConvSpec × List Char × List Value := match r with
        | '.' :: '*' :: r2 =>
          let p := longOf ((args.headD .unset).toNum)
          ({ sp with precision := if p < 0 then none else some p.toNat }, r2, args.drop 1)
        | '.' :: r2 =>
          let ds := r2.takeWhile Char.isDigit
          ({ sp with precision := some (digitsValue 10 ds) }, r2.drop ds.length, args)
        | _ => (sp, r, args)
      match args with
      | [] => (acc, some ("not enough arguments passed to " ++ shown))
      | arg :: args' =>
        let r := match r with
          | 'l' :: r2 | 'h' :: r2 => r2
          | _ => r
        match r with
        | c :: r2 =>
          let sp := { sp with conv := c }
          match c with
          | 'c' =>
            let text := match arg with
              | .num v => String.singleton (Char.ofNat ((longOf v).toNat % 256))
              | v => (v.toStr convFmt).take 1 |>.toString
            go fuel (k + 1) r2 args' (acc ++ padBlank sp text)
          | 'd' | 'i' => go fuel (k + 1) r2 args' (acc ++ formatSigned sp (longOf arg.toNum))
          | 'o' | 'u' | 'x' | 'X' =>
            let v := longOf arg.toNum
            let u : Nat := if v < 0 then (v + Int.ofNat twoTo64).toNat else v.toNat
            go fuel (k + 1) r2 args' (acc ++ formatUnsigned sp u)
          | 'e' | 'E' | 'f' | 'F' | 'g' | 'G' =>
            go fuel (k + 1) r2 args' (acc ++ formatFloat .double sp (floatValueOf arg.toNum))
          | 's' =>
            let s := arg.toStr convFmt
            let s := match sp.precision with
              | some p => (s.take p).toString
              | none => s
            go fuel (k + 1) r2 args' (acc ++ padBlank sp s)
          | _ => (acc, some ("improper conversion(number " ++ toString (k + 1) ++ ") in " ++ shown))
        | [] => (acc, some ("improper conversion(number " ++ toString (k + 1) ++ ") in " ++ shown))
    | fuel + 1, k, c :: rest, args, acc => go fuel k rest args (acc.push c)
  go (fmt.length + 1) 0 fmt.toList args ""

/-! ## Regular expressions and replacement -/

/-- Read a regular expression, or fail the run. -/
def compile (src : String) : M Regex := do
  match Regex.parse true src with
  | .ok re => pure re
  | .error msg => throw { message := "regular expression compile failed (" ++ msg ++ ")\n" ++ src }

/-- The text a `sub` replacement stands for at one match: `&` is the match, `\&` a plain `&`,
`\\` a backslash. -/
def replacementText (rep : String) (matched : String) : String :=
  let rec go : Nat → List Char → String → String
    | 0, _, acc => acc
    | _ + 1, [], acc => acc
    | fuel + 1, '\\' :: '&' :: r, acc => go fuel r (acc.push '&')
    | fuel + 1, '\\' :: '\\' :: r, acc => go fuel r (acc.push '\\')
    | fuel + 1, '&' :: r, acc => go fuel r (acc ++ matched)
    | fuel + 1, c :: r, acc => go fuel r (acc.push c)
  go (rep.length + 1) rep.toList ""

/-- Replace the first (or, with `global`, every) match in a text: the result and the count.
An empty match right after a match is not taken. -/
def substitute (re : Regex) (rep : String) (global : Bool) (text : String) : String × Nat :=
  let cs := text.toList.toArray
  let slice (a b : Nat) : String := String.ofList ((cs.toList.drop a).take (b - a))
  let rec go : Nat → Nat → Option Nat → String → Nat → String × Nat
    | 0, pos, _, acc, n => (acc ++ slice pos cs.size, n)
    | fuel + 1, pos, lastEnd, acc, n =>
      if pos > cs.size then (acc, n)
      else
        match re.search cs pos with
        | none => (acc ++ slice pos cs.size, n)
        | some (a, b, _) =>
          if a == b && lastEnd == some a then
            if a < cs.size then go fuel (a + 1) none (acc ++ slice pos (a + 1)) n
            else (acc ++ slice pos cs.size, n)
          else
            let acc := acc ++ slice pos a ++ replacementText rep (slice a b)
            if !global then (acc ++ slice b cs.size, n + 1)
            else if a == b then
              if a < cs.size then go fuel (a + 1) none (acc ++ slice a (a + 1)) (n + 1)
              else (acc, n + 1)
            else go fuel b (some b) acc (n + 1)
  go (cs.size + 2) 0 none "" 0

/-- Round half away from zero. -/
def roundHalf (v : Float) : Int :=
  if v < 0.0 then -(floatToInt (-v + 0.5)) else floatToInt (v + 0.5)

/-- `substr(s, m, n)`: the characters at positions `m` to `m + n - 1` (rounded), within `s`. -/
def substrOf (s : String) (m : Float) (n : Option Float) : String :=
  let start := roundHalf m
  let stop : Int := match n with
    | some l => start + roundHalf l
    | none => (s.length : Int) + 1
  let first := max start 1
  let last := min stop ((s.length : Int) + 1)
  if last ≤ first then ""
  else String.ofList ((s.toList.drop (first - 1).toNat).take (last - first).toNat)

/-- The position of `t` in `s`, from 1, or 0. -/
def indexOf (s t : String) : Nat :=
  if t.isEmpty then 0
  else
    let cs := s.toList
    let ts := t.toList
    match (List.range (cs.length + 1)).find? fun i => ts.isPrefixOf (cs.drop i) with
    | some i => i + 1
    | none => 0

/-- Arithmetic in binary64: division by zero gives an infinity, and `%` by zero not a number,
as the processor does. -/
def arith (op : String) (x y : Float) : M Float := do
  match op with
  | "+" => pure (x + y)
  | "-" => pure (x - y)
  | "*" => pure (x * y)
  | "/" => pure (x / y)
  | "%" =>
    if y == 0.0 || x.isInf then pure (0.0 / 0.0)
    else
      let q := x / y
      let t := if q < 0.0 then q.ceil else q.floor
      pure (x - t * y)
  | _ => pure (x ^ y)

/-- The next number of the generator of `rand`, and its new state. -/
def nextRandom (seed : Nat) : Float × Nat :=
  let s := (seed * 1103515245 + 12345) % 2147483648
  (Float.ofNat s / 2147483648.0, s)

end Fanout.Awk
