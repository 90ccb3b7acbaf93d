import Fanout.Awk.Eval

/-!
# The awk interpreter

Expressions are evaluated and statements run over the state of `Fanout.Awk.Eval`. A run goes:
the `BEGIN` items in order; then, when the program has other items, each record of the input
through the items whose pattern holds (a range holds from a record where its first expression
does to one where its second does); then the `END` items. `exit` skips to the `END` items (or,
inside them, ends the run); `next` goes on with the next record.

Every evaluation takes a count that falls by one on each nested step, so evaluation is total;
loops also spend it, one an iteration, and the whole run a bounded number of steps.
-/

namespace Fanout.Awk

open Fanout.Posix Fanout.Text

/-- The key of a list of subscripts: their texts joined by `SUBSEP`. -/
def joinKey (parts : List String) : M String := do
  let sep := (← globalVar "SUBSEP").toStr "%.6g"
  pure (sep.intercalate parts)

/-- Whether a name is an array here: a local array, or a global one that has elements. -/
def isArray (name : String) : M Bool := do
  match (← get).frames with
  | frame :: _ =>
    match frame.lookup name with
    | some (.array _) => pure true
    | some (.scalar _) => pure false
    | none => pure ((← get).arrays.any (·.1 == name))
  | [] => pure ((← get).arrays.any (·.1 == name))

/-- Stop the run with a run-time error: the message, and where in the input the run was. -/
def runtimeError {α : Type} (msg : String) : M α := do
  let name := (← globalVar "FILENAME").toStr "%.6g"
  let fnr := longOf (← globalVar "FNR").toNum
  let nr := longOf (← globalVar "NR").toNum
  throw { message := "run time error: " ++ msg ++ "\n\tFILENAME=\"" ++ name ++ "\" FNR=" ++
    toString fnr ++ " NR=" ++ toString nr }

/-- Write text where `print` sends it. -/
def writeTo (dest : Option (Bool × Bool × String)) (text : String) : M Unit := do
  match dest with
  | none => emit (.out text)
  | some (true, _, cmd) => emit (.toPipe cmd text)
  | some (false, append, name) =>
    if name == "/dev/stdout" || name == "-" then emit (.out text)
    else if name == "/dev/stderr" then emit (.err text)
    else
      let st ← get
      let fresh := !append && !st.openFiles.contains name
      let before := if fresh then "" else (st.written.lookup name).getD ""
      set { st with openFiles := if st.openFiles.contains name then st.openFiles else name :: st.openFiles,
                    written := (name, before ++ text) :: st.written.filter (·.1 != name) }
      emit (.toFile name fresh text)

mutual

/-- Evaluate an expression. -/
def eval : Nat → Expr → M Value
  | 0, _ => throw { message := "expression too deep" }
  | n + 1, e => do
    match e with
    | .num v => pure (.num v)
    | .str s => pure (.str s)
    | .regex src =>
      let re ← compile src
      pure (.num (if re.test (← get).record then 1.0 else 0.0))
    | .var name => getVar name
    | .field k =>
      let i ← fieldIndex n k
      getField i
    | .index name subs =>
      let storage ← arrayStorage name
      getElement storage (← subscript n subs)
    | .assign op lhs rhs =>
      let v ← eval n rhs
      let v ← if op.isEmpty then pure v
        else do
          let cur ← eval n lhs
          pure (Value.num (← arith op cur.toNum v.toNum))
      assignTo n lhs v
      pure v
    | .cond c a b => if (← eval n c).truth then eval n a else eval n b
    | .and a b =>
      if (← eval n a).truth then pure (.num (if (← eval n b).truth then 1.0 else 0.0))
      else pure (.num 0.0)
    | .or a b =>
      if (← eval n a).truth then pure (.num 1.0)
      else pure (.num (if (← eval n b).truth then 1.0 else 0.0))
    | .matches negated a r =>
      let s ← strOf (← eval n a)
      let re ← regexOf n r
      pure (.num (if re.test s != negated then 1.0 else 0.0))
    | .binary op a b =>
      let x ← eval n a
      let y ← eval n b
      if op == "<" || op == "<=" || op == ">" || op == ">=" || op == "==" || op == "!=" then
        let o := Value.compare (← convfmt) x y
        let holds : Bool := match op with
          | "<" => o == .lt
          | "<=" => o != .gt
          | ">" => o == .gt
          | ">=" => o != .lt
          | "==" => o == .eq
          | _ => o != .eq
        pure (.num (if holds then 1.0 else 0.0))
      else pure (.num (← arith op x.toNum y.toNum))
    | .concat a b =>
      let x ← strOf (← eval n a)
      let y ← strOf (← eval n b)
      pure (.str (x ++ y))
    | .not a => pure (.num (if (← eval n a).truth then 0.0 else 1.0))
    | .neg a => pure (.num (-(← eval n a).toNum))
    | .plus a => pure (.num (← eval n a).toNum)
    | .step pre up lhs =>
      let cur := (← eval n lhs).toNum
      let next := if up then cur + 1.0 else cur - 1.0
      assignTo n lhs (.num next)
      pure (.num (if pre then next else cur))
    | .member subs arr =>
      let storage ← arrayStorage arr
      let key ← subscript n subs
      pure (.num (if (← arrayOf storage).any (·.1 == key) then 1.0 else 0.0))
    | .call name args =>
      if name.isEmpty then
        -- a list in parentheses outside `in`: its items joined as a subscript
        pure (.str (← subscript n args))
      else if builtins.contains name then callBuiltin n name args
      else
        match (← read).program.functions.find? (·.name == name) with
        | some f => callUser n f args
        | none => throw { message := "function " ++ name ++ " never defined" }
    | .getline target source => getlineFrom n target source
    | .pipeGetline cmdE target =>
      let cmd ← strOf (← eval n cmdE)
      let records ← match (← get).piped.lookup cmd with
        | some rs => pure rs
        | none => do
          let rs := (← globalVar "RS").toStr "%.6g"
          pure (splitRecords rs ((← read).capture cmd))
      match records with
      | [] =>
        modify fun st => { st with piped := (cmd, []) :: st.piped.filter (·.1 != cmd) }
        pure (.num 0.0)
      | r :: rest =>
        modify fun st => { st with piped := (cmd, rest) :: st.piped.filter (·.1 != cmd) }
        match target with
        | some t => assignTo n t (Value.ofInput r)
        | none => setRecord r
        let nr := (← globalVar "NR").toNum
        setGlobal "NR" (.num (nr + 1.0))
        pure (.num 1.0)
    | .group inner => eval n inner

/-- The number of a field reference. -/
def fieldIndex : Nat → Expr → M Nat
  | 0, _ => throw { message := "expression too deep" }
  | n + 1, k => do
    let v := (← eval n k).toNum
    let i := floatToInt v
    if i < 0 then runtimeError ("negative field index $" ++ toString i)
    pure i.toNat

/-- The key of a list of subscripts. -/
def subscript : Nat → List Expr → M String
  | 0, _ => throw { message := "expression too deep" }
  | n + 1, subs => do
    let parts ← subs.mapM fun s => do strOf (← eval n s)
    joinKey parts

/-- A regular expression given by an expression: a literal, or the text of a value. -/
def regexOf : Nat → Expr → M Regex
  | 0, _ => throw { message := "expression too deep" }
  | n + 1, e => do
    match e with
    | .regex src => compile src
    | other => compile (← strOf (← eval n other))

/-- Assign to a variable, a field or an element. -/
def assignTo : Nat → Expr → Value → M Unit
  | 0, _, _ => throw { message := "expression too deep" }
  | n + 1, lhs, v => do
    match lhs with
    | .var name => setVar name v
    | .field k => setField (← fieldIndex n k) v
    | .index name subs =>
      let storage ← arrayStorage name
      setElement storage (← subscript n subs) v
    | .group inner => assignTo n inner v
    | _ => throw { message := "assignment to a value that cannot be assigned" }

/-- `getline`, `getline var`, `getline < file`, `getline var < file`: 1 for a record read, 0
at the end, -1 when the file cannot be read. -/
def getlineFrom : Nat → Option Expr → Option Expr → M Value
  | 0, _, _ => throw { message := "expression too deep" }
  | n + 1, target, source => do
    let put (line : String) : M Unit := do
      match target with
      | some t => assignTo n t (Value.ofInput line)
      | none => setRecord line
    match source with
    | none =>
      match ← nextRecord with
      | some line => put line; pure (.num 1.0)
      | none => pure (.num 0.0)
    | some src =>
      let name ← strOf (← eval n src)
      let st ← get
      let records ← match st.readers.lookup name with
        | some rs => pure (some rs)
        | none =>
          match st.written.lookup name <|> (← read).readFile name with
          | some content =>
            let rs := (← globalVar "RS").toStr "%.6g"
            pure (some (splitRecords rs content))
          | none => pure none
      match records with
      | none => pure (.num (-1.0))
      | some [] =>
        modify fun st => { st with readers := (name, []) :: st.readers.filter (·.1 != name) }
        pure (.num 0.0)
      | some (r :: rest) =>
        modify fun st => { st with readers := (name, rest) :: st.readers.filter (·.1 != name) }
        put r
        pure (.num 1.0)

/-- Call a built-in function. -/
def callBuiltin : Nat → String → List Expr → M Value
  | 0, _, _ => throw { message := "expression too deep" }
  | n + 1, name, args => do
    let arg (i : Nat) : M Value := match args[i]? with
      | some e => eval n e
      | none => pure .unset
    let text (i : Nat) : M String := do strOf (← arg i)
    let number (i : Nat) : M Float := do pure (← arg i).toNum
    match name with
    | "length" =>
      match args with
      | [] => pure (.num (Float.ofNat (← get).record.length))
      | [Expr.var v] =>
        if ← isArray v then
          let storage ← arrayStorage v
          pure (.num (Float.ofNat (← arrayOf storage).length))
        else pure (.num (Float.ofNat (← text 0).length))
      | _ => pure (.num (Float.ofNat (← text 0).length))
    | "substr" =>
      let s ← text 0
      let m ← number 1
      let l ← if args.length ≥ 3 then do pure (some (← number 2)) else pure none
      pure (.str (substrOf s m l))
    | "index" => pure (.num (Float.ofNat (indexOf (← text 0) (← text 1))))
    | "split" =>
      let s ← text 0
      let arrName ← match args[1]? with
        | some (Expr.var v) => pure v
        | _ => throw { message := "split: second argument is not an array" }
      let pieces ← match args[2]? with
        | some (Expr.regex src) =>
          let re ← compile src
          pure (if s.isEmpty then [] else splitRegex re s)
        | some e => do
          let fs ← strOf (← eval n e)
          pure (splitFields fs false s)
        | none => do
          let fs := (← globalVar "FS").toStr "%.6g"
          pure (splitFields fs false s)
      let storage ← arrayStorage arrName
      setArray storage ((pieces.zip (List.range pieces.length)).map fun (p, i) =>
        (toString (i + 1), Value.ofInput p))
      pure (.num (Float.ofNat pieces.length))
    | "sub" | "gsub" =>
      let re ← regexOf n (args.headD (.str ""))
      let rep ← text 1
      let target := args[2]?.getD (.field (.num 0.0))
      let cur ← strOf (← eval n target)
      let (result, count) := substitute re rep (name == "gsub") cur
      if count > 0 then assignTo n target (.str result)
      pure (.num (Float.ofNat count))
    | "match" =>
      let s ← text 0
      let re ← regexOf n (args[1]?.getD (.str ""))
      match re.search s.toList.toArray 0 with
      | some (a, b, _) =>
        setGlobal "RSTART" (.num (Float.ofNat (a + 1)))
        setGlobal "RLENGTH" (.num (Float.ofNat (b - a)))
        pure (.num (Float.ofNat (a + 1)))
      | none =>
        setGlobal "RSTART" (.num 0.0)
        setGlobal "RLENGTH" (.num (-1.0))
        pure (.num 0.0)
    | "sprintf" =>
      let fmt ← text 0
      let vals ← (args.drop 1).mapM (eval n)
      match formatValues "sprintf" fmt (← convfmt) vals with
      | (t, none) => pure (.str t)
      | (_, some msg) => runtimeError msg
    | "tolower" => pure (.str (String.map Char.toLower (← text 0)))
    | "toupper" => pure (.str (String.map Char.toUpper (← text 0)))
    | "int" =>
      let v ← number 0
      pure (.num (if v < 0.0 then v.ceil else v.floor))
    | "sqrt" => pure (.num (← number 0).sqrt)
    | "exp" => pure (.num (← number 0).exp)
    | "log" => pure (.num (← number 0).log)
    | "sin" => pure (.num (← number 0).sin)
    | "cos" => pure (.num (← number 0).cos)
    | "atan2" => pure (.num (Float.atan2 (← number 0) (← number 1)))
    | "rand" =>
      let st ← get
      let (x, s) := nextRandom st.seed
      set { st with seed := s }
      pure (.num x)
    | "srand" =>
      let v ← if args.isEmpty then pure 0.0 else number 0
      let st ← get
      set { st with seed := (floatToInt v).toNat, lastSeed := v }
      pure (.num st.lastSeed)
    | "system" =>
      emit (.system (← text 0))
      pure (.num 0.0)
    | "close" =>
      let f ← text 0
      modify fun st => { st with openFiles := st.openFiles.filter (· != f),
                                 readers := st.readers.filter (·.1 != f),
                                 piped := st.piped.filter (·.1 != f) }
      emit (.close f)
      pure (.num 0.0)
    | _ => pure (.num 0.0)

/-- Call a function of the program: its parameters are bound to the arguments (an array
passed by name is shared), the others are locals. -/
def callUser : Nat → Function → List Expr → M Value
  | 0, _, _ => throw { message := "function call nesting too deep" }
  | n + 1, f, args => do
    tick
    let slots ← (f.params.zip (List.range f.params.length)).mapM fun (p, i) => do
      match args[i]? with
      | some (.var x) =>
        if ← isArray x then pure (p, Slot.array (← arrayStorage x))
        else
          let v ← getVar x
          match v with
          | .unset => pure (p, Slot.array (← arrayStorage x))
          | _ => pure (p, Slot.scalar v)
      | some e => pure (p, Slot.scalar (← eval n e))
      | none => pure (p, Slot.scalar .unset)
    modify fun st => { st with frames := slots :: st.frames }
    let flow ← tryCatch (exec n f.body) fun e => do
      modify fun st => { st with frames := st.frames.drop 1 }
      throw e
    modify fun st => { st with frames := st.frames.drop 1 }
    match flow with
    | .ret v => pure v
    | .exit => throw { exiting := true }
    | .next => throw { nexting := true }
    | _ => pure .unset

/-- Run a statement. -/
def exec : Nat → Stmt → M Flow
  | 0, _ => throw { message := "statement too deep" }
  | n + 1, s => do
    match s with
    | .expr e =>
      let _ ← eval n e
      pure .normal
    | .print args dest =>
      let ofmt := (← globalVar "OFMT").toStr "%.6g"
      let conv ← convfmt
      let texts ← if args.isEmpty then pure [(← get).record]
        else args.mapM fun a => do
          let v ← eval n a
          pure (match v with
            | .num x => numText ofmt x
            | other => other.toStr conv)
      let ofs := (← globalVar "OFS").toStr conv
      let ors := (← globalVar "ORS").toStr conv
      writeTo (← destOf n dest) (ofs.intercalate texts ++ ors)
      pure .normal
    | .printf args dest =>
      let vals ← args.mapM (eval n)
      let conv ← convfmt
      let fmt := (vals.headD .unset).toStr conv
      let dest ← destOf n dest
      match formatValues "printf" fmt conv (vals.drop 1) with
      | (t, none) =>
        writeTo dest t
        pure .normal
      | (t, some msg) =>
        writeTo dest t
        runtimeError msg
    | .ifElse c yes no =>
      if (← eval n c).truth then exec n yes
      else
        match no with
        | some s2 => exec n s2
        | none => pure .normal
    | .while c body => loop n (some c) body none
    | .doWhile body c =>
      match ← exec n body with
      | .brk => pure .normal
      | .normal | .cont => loop n (some c) body none
      | other => pure other
    | .forC init c step body =>
      match init with
      | some i => let _ ← exec n i
      | none => pure ()
      loop n c body step
    | .forIn var arr body =>
      let storage ← arrayStorage arr
      let keys := (← arrayOf storage).map (·.1)
      forKeys n var body keys
    | .block body => execList n body
    | .next => pure .next
    | .exit code =>
      match code with
      | some e =>
        let v := (← eval n e).toNum
        modify fun st => { st with exitCode := ((floatToInt v) % 256).toNat }
      | none => pure ()
      pure .exit
    | .brk => pure .brk
    | .cont => pure .cont
    | .ret v =>
      match v with
      | some e => pure (.ret (← eval n e))
      | none => pure (.ret .unset)
    | .delete arr subs =>
      let storage ← arrayStorage arr
      match subs with
      | some ss =>
        let key ← subscript n ss
        setArray storage ((← arrayOf storage).filter (·.1 != key))
      | none => setArray storage []
      pure .normal

/-- Where `print` writes: none for standard output, else whether to a command, whether to
append, and the name. -/
def destOf : Nat → Dest → M (Option (Bool × Bool × String))
  | 0, _ => throw { message := "expression too deep" }
  | n + 1, d => do
    match d with
    | .stdout => pure none
    | .file append name => pure (some (false, append, ← strOf (← eval n name)))
    | .pipe cmd => pure (some (true, false, ← strOf (← eval n cmd)))

/-- Statements in order, stopping at one that does not end normally. -/
def execList : Nat → List Stmt → M Flow
  | 0, _ => throw { message := "statement too deep" }
  | _ + 1, [] => pure .normal
  | n + 1, s :: rest => do
    match ← exec n s with
    | .normal => execList n rest
    | other => pure other

/-- A loop: while the condition holds (none always does), the body and then the step. -/
def loop : Nat → Option Expr → Stmt → Option Stmt → M Flow
  | 0, _, _, _ => throw { message := "program ran too long" }
  | n + 1, c, body, step => do
    tick
    let go ← match c with
      | some e => do pure (← eval n e).truth
      | none => pure true
    if !go then return .normal
    match ← exec n body with
    | .brk => pure .normal
    | .normal | .cont =>
      match step with
      | some st => let _ ← exec n st
      | none => pure ()
      loop n c body step
    | other => pure other

/-- `for (var in arr)` over the keys. -/
def forKeys : Nat → String → Stmt → List String → M Flow
  | 0, _, _, _ => throw { message := "program ran too long" }
  | _ + 1, _, _, [] => pure .normal
  | n + 1, var, body, k :: ks => do
    tick
    setVar var (Value.ofInput k)
    match ← exec n body with
    | .brk => pure .normal
    | .normal | .cont => forKeys n var body ks
    | other => pure other

end

/-- Run an action, turning `exit` and `next` from inside functions into their flows. -/
def runAction (n : Nat) (s : Stmt) : M Flow :=
  tryCatch (exec n s) fun e =>
    if e.exiting then pure .exit else if e.nexting then pure .next else throw e

/-- Whether an item's pattern selects the current record, updating an open range. -/
def selects (n : Nat) (i : Nat) (p : Pattern) : M Bool := do
  let holds (e : Expr) : M Bool := do
    pure (← eval n e).truth
  match p with
  | .always => pure true
  | .begin | .finish => pure false
  | .test e => holds e
  | .range a b =>
    if (← get).ranges.contains i then
      if ← holds b then modify fun st => { st with ranges := st.ranges.filter (· != i) }
      pure true
    else if ← holds a then
      if !(← holds b) then modify fun st => { st with ranges := i :: st.ranges }
      pure true
    else pure false

/-- Run the main items on the current record: how the record's turn ended. -/
def runRecord (n : Nat) : List (Nat × Item) → M Flow
  | [] => pure .normal
  | (i, it) :: rest => do
    if ← selects n i it.pattern then
      let flow ← match it.action with
        | some s => runAction n s
        | none => do
          let conv ← convfmt
          let ors := (← globalVar "ORS").toStr conv
          emit (.out ((← get).record ++ ors))
          pure .normal
      match flow with
      | .next => pure .next
      | .exit => pure .exit
      | _ => runRecord n rest
    else runRecord n rest

/-- Read records and run the main items on each, until the input ends or `exit`. -/
def recordLoop (n : Nat) (items : List (Nat × Item)) : Nat → M Flow
  | 0 => pure .normal
  | k + 1 => do
    tick
    match ← nextRecord with
    | none => pure .normal
    | some r =>
      setRecord r
      match ← runRecord n items with
      | .exit => pure .exit
      | _ => recordLoop n items k

/-- Run items (of `BEGIN` or `END`) in order, until one exits. -/
def runAll (n : Nat) : List Item → M Flow
  | [] => pure .normal
  | it :: rest => do
    match it.action with
    | some s =>
      match ← runAction n s with
      | .exit => pure .exit
      | _ => runAll n rest
    | none => runAll n rest

/-- Run a whole program. -/
def runProgram (inputSize : Nat) : M Unit := do
  let prog := (← read).program
  let n := stepLimit
  let begins := prog.items.filter fun it => match it.pattern with
    | .begin => true
    | _ => false
  let ends := prog.items.filter fun it => match it.pattern with
    | .finish => true
    | _ => false
  let mains := (prog.items.zip (List.range prog.items.length)).filter fun (it, _) =>
    match it.pattern with
    | .begin | .finish => false
    | _ => true
  let flow ← runAll n begins
  let flow ← match flow with
    | .exit => pure Flow.exit
    | _ =>
      if mains.isEmpty && ends.isEmpty then pure .normal
      else recordLoop n (mains.map fun (it, i) => (i, it)) (inputSize + 2)
  let _ := flow
  let _ ← runAll n ends

end Fanout.Awk
