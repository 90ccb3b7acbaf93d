import Fanout.Posix.State
import Fanout.Posix.Printf
import Fanout.Posix.Test
import Fanout.Posix.Arith

/-!
# Builtins

The commands the shell carries out itself without running other commands: `echo`, `printf`,
`test`, `pwd`, `cd`, `ulimit`, `umask`, `trap`, `read`, `shift`, `set`, `export`, `readonly`,
`unset`, `local`, `alias`, `getopts` and others. Each sets `$?`.

Messages start with the shell's name, its line and the builtin's name
(`a.sh: 3: cd: can't cd to /x`). An error (`shError`) ends the shell when the builtin is a
special one, and otherwise fails the builtin with status 2. Options are read as the shell reads
them for every builtin: words that start with `-` up to `--`, each letter one option, and an
unknown letter is `Illegal option -x`.
-/

namespace Fanout.Posix

open Fanout.Host

/-! ## Paths -/

/-- `p` as an absolute path under `cwd`, with `.` and `..` resolved by the text alone. -/
def logicalPath (cwd p : String) : String :=
  let start := if isAbsolute p then [] else parts cwd
  let names := (p.splitOn "/").filter fun s => s != "" && s != "."
  let resolved := names.foldl (fun acc s => if s == ".." then acc.dropLast else acc ++ [s]) start
  "/" ++ "/".intercalate resolved

/-- The home directory of a user, from the account file `/etc/passwd`. -/
def userHome (fs : Fs) (user : String) : Option String :=
  match fs.node? "/etc/passwd" with
  | some (.file content _) =>
    (content.splitOn "\n").findSome? fun line =>
      match line.splitOn ":" with
      | name :: _ :: _ :: _ :: _ :: home :: _ => if name == user then some home else none
      | _ => none
  | _ => none

/-- What `test` learns about a node found under `path`. -/
def factsOf (fs : Fs) (path : String) (n : Node) : FileFacts :=
  { kind := match n with
      | .dir _ => .directory
      | .device _ => .charDevice
      | .link _ => .symlink
      | _ => .regular,
    mode := n.mode, size := n.size, stamp := fs.stamp path, ident := path }

/-- How `test` looks at the paths of a machine from a working directory. -/
def fileProbe (fs : Fs) (cwd : String) : FileProbe :=
  { stat := fun p =>
      match fs.resolve cwd p with
      | .ok q => (fs.node? q).map (factsOf fs q)
      | .error _ => none,
    lstat := fun p =>
      match fs.resolveParent cwd p with
      | .ok q => (fs.node? q).map (factsOf fs q)
      | .error _ => none }

/-! ## Reading options and numbers -/

/-- Split the options off a builtin's arguments: the option letters in order, and the
operands; `--` ends the options and is dropped, and `-` alone is an operand. The letters with an
argument (after `:` in `spec`) take the rest of the word, or the next word, as their argument. -/
def builtinOptions (spec : String) : List String → Except String (List (Char × String) × List String)
  | [] => .ok ([], [])
  | a :: rest =>
    if a == "--" then .ok ([], rest)
    else if a.startsWith "-" && a.length > 1 then
      let rec letters : Nat → List Char → List String → Except String (List (Char × String) × List String)
        | 0, _, more => .ok ([], more)
        | _ + 1, [], more => (builtinOptions spec more)
        | fuel + 1, c :: cs, more =>
          match (spec.toList.dropWhile (· != c)) with
          | _ :: ':' :: _ =>
            if !cs.isEmpty then
              (builtinOptions spec more).map fun (os, ws) => ((c, String.ofList cs) :: os, ws)
            else
              match more with
              | w :: more2 => (builtinOptions spec more2).map fun (os, ws) => ((c, w) :: os, ws)
              | [] => .error ("No arg for -" ++ String.singleton c ++ " option")
          | _ :: _ =>
            (letters fuel cs more).map fun (os, ws) => ((c, "") :: os, ws)
          | [] => .error ("Illegal option -" ++ String.singleton c)
      letters (a.length + 1) (a.drop 1).toString.toList rest
    else .ok ([], a :: rest)

/-- Read a builtin's options, failing on an unknown one. -/
def takeOptions (spec : String) (args : List String) : Sh (List (Char × String) × List String) :=
  match builtinOptions spec args with
  | .ok r => pure r
  | .error msg => shError msg

/-- A count given to a builtin: digits only, within the C library's `int`. -/
def countArg (s : String) : Sh Nat := do
  if !s.isEmpty && s.all Char.isDigit then
    let v := digitsValue 10 s.toList
    if v ≤ 2147483647 then return v
  shError ("Illegal number: " ++ s)

/-! ## Output -/

/-- Quote a text as the shell does in its listings: in single quotes, and each run of `'`
in double quotes between them. -/
def singleQuote (s : String) : String :=
  let rec go : Nat → List Char → String
    | 0, _ => ""
    | fuel + 1, cs =>
      let plain := cs.takeWhile (· != '\'')
      let rest := cs.drop plain.length
      let quotes := rest.takeWhile (· == '\'')
      let after := rest.drop quotes.length
      "'" ++ String.ofList plain ++ "'" ++
        (if quotes.isEmpty then "" else "\"" ++ String.ofList quotes ++ "\"" ++
          (if after.isEmpty then "" else go fuel after))
  go (s.length + 1) s.toList

/-- The shell's `echo`. -/
def echoBuiltin (args : List String) : Sh Unit := do
  out (shellEcho args)
  setStatus 0

/-- The shell's `printf`: warnings come first on the error stream, as the output is held until
the builtin is done. -/
def printfBuiltin (args : List String) : Sh Unit := do
  let (_, operands) ← takeOptions "" args
  match operands with
  | [] => shError "usage: printf format [arg ...]"
  | fmt :: rest =>
    let r := shellPrintf fmt rest
    for w in r.warnings do complain w
    match r.fault with
    | some f =>
      complain (f.directive ++ ": invalid directive")
      out r.out
      setStatus 2
      throw .error
    | none =>
      out r.out
      setStatus (if r.warnings.isEmpty then 0 else 1)

/-- `test` and `[`. -/
def testBuiltin (cmd : String) (args : List String) : Sh Unit := do
  let w ← get
  let probe := fileProbe w.p.fs w.sh.cwd
  match (if cmd == "[" then bracketArgs probe args else testArgs probe args) with
  | .ok b => setStatus (if b then 0 else 1)
  | .error msg => shError msg

/-! ## The working directory -/

/-- The directory a path leads to with every link resolved. -/
def physicalPath (fs : Fs) (p : String) : String :=
  match fs.resolve "/" p with
  | .ok q => q
  | .error _ => p

/-- Whether `-P` (rather than `-L`) is the last of the options. -/
def physicalOption (opts : List (Char × String)) : Bool :=
  opts.foldl (fun acc (c, _) => if c == 'P' then true else if c == 'L' then false else acc) false

/-- `pwd`. -/
def pwdBuiltin (args : List String) : Sh Unit := do
  let (opts, _) ← takeOptions "LP" args
  let sh ← getShell
  let fs := (← getProc).fs
  let dir := if physicalOption opts then physicalPath fs sh.cwd else sh.cwd
  out (dir ++ "\n")
  setStatus 0

/-- `cd`: to `HOME` without an operand, to `OLDPWD` (which it prints) with `-`; `PWD` and
`OLDPWD` are set and exported. -/
def cdBuiltin (args : List String) : Sh Unit := do
  let (opts, operands) ← takeOptions "LP" args
  let sh ← getShell
  let (dest, print) := match operands with
    | [] => ((sh.get? "HOME").getD "", false)
    | "-" :: _ => ((sh.get? "OLDPWD").getD "", true)
    | d :: _ => (d, false)
  let dest' := if dest.isEmpty then "." else dest
  let fs := (← getProc).fs
  let target := logicalPath sh.cwd dest'
  if fs.isDir "/" target then
    let path := if physicalOption opts then physicalPath fs target else target
    let old := sh.cwd
    modifyShell fun sh =>
      (((({ sh with cwd := path }.set "OLDPWD" old).markExported "OLDPWD").set "PWD" path).markExported "PWD")
    if print then out (path ++ "\n")
    setStatus 0
  else shError ("can't cd to " ++ dest)

/-! ## Limits and the file mode mask -/

/-- The limits `ulimit` knows: letter, name in `-a`, and the unit factor. -/
def limitTable : List (Char × String × Nat) :=
  [('t', "time(seconds)", 1), ('f', "file(blocks)", 512), ('d', "data(kbytes)", 1024),
   ('s', "stack(kbytes)", 1024), ('c', "coredump(blocks)", 512), ('m', "memory(kbytes)", 1024),
   ('l', "locked memory(kbytes)", 1024), ('p', "process", 1), ('n', "nofiles", 1),
   ('v', "vmemory(kbytes)", 1024), ('w', "locks", 1), ('r', "rtprio", 1)]

/-- How `ulimit` shows a limit. -/
def limitText (v : Option Nat) (factor : Nat) : String :=
  match v with
  | some n => toString (n / factor)
  | none => "unlimited"

/-- `ulimit`: show or set one limit (the file size by default), the soft one, the hard one or
both; `-a` shows them all. -/
def ulimitBuiltin (args : List String) : Sh Unit := do
  let (opts, operands) ← takeOptions "HSatfdscmlpnvwr" args
  let hard := opts.foldl (fun acc (c, _) => if c == 'H' then some true else if c == 'S' then some false else acc) none
  let all := opts.any (·.1 == 'a')
  let letter := (opts.filter fun (c, _) => c != 'H' && c != 'S' && c != 'a').getLast?.map (·.1) |>.getD 'f'
  let sh ← getShell
  let pick (l : Limit) : Option Nat := if hard == some true then l.hard else l.soft
  match operands with
  | [] =>
    if all then
      for (c, name, factor) in limitTable do
        out (name ++ fill (20 - name.length) ' ' ++ " " ++ limitText (pick (sh.limits.get c)) factor ++ "\n")
    else
      let factor := ((limitTable.lookup letter).map (·.2)).getD 1
      out (limitText (pick (sh.limits.get letter)) factor ++ "\n")
    setStatus 0
  | v :: more =>
    if all || !more.isEmpty then shError "too many arguments"
    let factor := ((limitTable.lookup letter).map (·.2)).getD 1
    let value ← if v == "unlimited" then pure none
      else if !v.isEmpty && v.all Char.isDigit then pure (some (digitsValue 10 v.toList * factor))
      else shError "bad number"
    let old := sh.limits.get letter
    let new : Limit := match hard with
      | some true => { old with hard := value }
      | some false => { old with soft := value }
      | none => ⟨value, value⟩
    -- none is no limit, above every number
    let atMost (a b : Option Nat) : Bool := match a, b with
      | _, none => true
      | none, some _ => false
      | some x, some y => x ≤ y
    if !atMost new.soft new.hard then shError "error setting limit (Invalid argument)"
    else if !atMost new.hard old.hard then shError "error setting limit (Operation not permitted)"
    else
      modifyShell fun sh => { sh with limits := sh.limits.put letter new }
      setStatus 0

/-- The mask a symbolic `umask` operand leaves, from the mask `mask`; none when it is not a
valid mode. -/
def symbolicMask (mask : Nat) (text : String) : Option Nat :=
  let allowed := 0o777 - mask
  let rec clauses : Nat → List Char → Nat → Option Nat
    | 0, _, acc => some acc
    | fuel + 1, cs, acc =>
      let who := cs.takeWhile fun c => "augo".toList.contains c
      let cs := cs.drop who.length
      let positions := who.foldl (fun p c => p ||| match c with
        | 'u' => 0o100
        | 'g' => 0o010
        | 'o' => 0o001
        | _ => 0o111) 0
      let positions := if positions == 0 then 0o111 else positions
      let rec actions : Nat → List Char → Nat → Option (Nat × List Char)
        | 0, cs, acc => some (acc, cs)
        | fuel2 + 1, cs, acc =>
          match cs with
          | op :: rest =>
            if "=+-".toList.contains op then
              let perms := rest.takeWhile fun c => "rwxugoXs".toList.contains c
              let after := rest.drop perms.length
              let bits := perms.foldl (fun b c => b ||| match c with
                | 'r' => 4
                | 'w' => 2
                | 'x' => 1
                | 'u' => acc / 64 % 8
                | 'g' => acc / 8 % 8
                | 'o' => acc % 8
                | 'X' => if acc &&& 0o111 != 0 then 1 else 0
                | _ => 0) 0
              let value := (bits % 8) * positions
              let acc := match op with
                | '-' => acc &&& (0o777 - value)
                | '=' => (acc &&& (0o777 - 7 * positions)) ||| value
                | _ => acc ||| value
              actions fuel2 after acc
            else some (acc, cs)
          | [] => some (acc, [])
      match actions (cs.length + 1) cs acc with
      | some (acc, ',' :: rest) => clauses fuel rest acc
      | some (acc, []) => some acc
      | _ => none
  (clauses (text.length + 1) text.toList allowed).map fun a => 0o777 - (a % 0o1000)

/-- `umask`: show the mask (in four octal digits, or as `u=…,g=…,o=…` with `-S`) or set it
from octal digits or a symbolic mode. -/
def umaskBuiltin (args : List String) : Sh Unit := do
  let (opts, operands) ← takeOptions "S" args
  let mask := (← getShell).umask
  match operands with
  | [] =>
    if opts.isEmpty then
      let t := digitText 8 false mask
      out (fill (4 - t.length) '0' ++ t ++ "\n")
    else
      let allowed := 0o777 - mask
      let part (who : String) (shift : Nat) : String :=
        let b := allowed / Nat.pow 8 shift % 8
        who ++ "=" ++ (if b / 4 % 2 == 1 then "r" else "") ++ (if b / 2 % 2 == 1 then "w" else "") ++
          (if b % 2 == 1 then "x" else "")
      out (part "u" 2 ++ "," ++ part "g" 1 ++ "," ++ part "o" 0 ++ "\n")
    setStatus 0
  | m :: _ =>
    if (m.toList.head?.map Char.isDigit).getD false then
      if m.all isOctal then
        modifyShell fun sh => { sh with umask := digitsValue 8 m.toList % 0o1000 }
        setStatus 0
      else shError ("Illegal number: " ++ m)
    else
      match symbolicMask mask m with
      | some v =>
        modifyShell fun sh => { sh with umask := v }
        setStatus 0
      | none => shError ("Illegal mode: " ++ m)

/-! ## Traps -/

/-- The name of a signal in listings. -/
def signalName (n : Nat) : String :=
  if n == 0 then "EXIT" else listedName n

/-- The signal a `trap` operand names: a number below 65, or a name (without `SIG`) in any
case, `EXIT` being zero. -/
def trapSignal? (s : String) : Option Nat :=
  if !s.isEmpty && s.all Char.isDigit then
    let n := digitsValue 10 s.toList
    if n < 65 then some n else none
  else
    let up := s.toUpper
    if up == "EXIT" then some 0 else (signalNames.find? (·.2 == up)).map (·.1)

/-- `trap`: list the traps, or set the action of signals (reset it with `-`, or when the first
operand is a signal number). A bad signal is
reported on the error stream as it is and ends the command with status 1. -/
def trapBuiltin (args : List String) : Sh Unit := do
  let (_, operands) ← takeOptions "" args
  let sh ← getShell
  match operands with
  | [] =>
    for n in List.range 65 do
      match sh.trap? n with
      | some t =>
        let action := match t with
          | .ignore => ""
          | .run a => a
        out ("trap -- " ++ singleQuote action ++ " " ++ signalName n ++ "\n")
      | none => pure ()
    setStatus 0
  | first :: rest =>
    let numbered := !first.isEmpty && first.all Char.isDigit && digitsValue 10 first.toList < 65
    let (action, sigs) : Option Trap × List String :=
      if rest.isEmpty || numbered then (none, operands)
      else if first == "-" then (none, rest)
      else if first.isEmpty then (some .ignore, rest)
      else (some (.run first), rest)
    let rec go : List String → Sh Unit
      | [] => setStatus 0
      | s :: more => do
        match trapSignal? s with
        | some n =>
          modifyShell fun sh =>
            let others := sh.traps.filter (·.1 != n)
            match action with
            | some t => { sh with traps := others ++ [(n, t)] }
            | none => { sh with traps := others }
          go more
        | none =>
          err ("trap: " ++ s ++ ": bad trap\n")
          setStatus 1
    go sigs

/-! ## Parameters and options -/

/-- Shift the positional parameters; `false` when there are too few. -/
def shiftParams (k : Nat) : Sh Bool := do
  let sh ← getShell
  if k > sh.params.length then return false
  modifyShell fun sh => { sh with params := sh.params.drop k }
  return true

/-- `shift`. -/
def shiftBuiltin (args : List String) : Sh Unit := do
  let k ← match args with
    | a :: _ => countArg a
    | [] => pure 1
  if ← shiftParams k then setStatus 0 else shError "can't shift that many"

/-- The options of the shell: letter (none for those without one) and name, in order. -/
def optionNames : List (Option Char × String) :=
  [(some 'e', "errexit"), (some 'f', "noglob"), (some 'I', "ignoreeof"), (some 'i', "interactive"),
   (some 'm', "monitor"), (some 'n', "noexec"), (some 's', "stdin"), (some 'x', "xtrace"),
   (some 'v', "verbose"), (some 'V', "vi"), (some 'E', "emacs"), (some 'C', "noclobber"),
   (some 'a', "allexport"), (some 'b', "notify"), (some 'u', "nounset"), (none, "nolog"),
   (none, "debug")]

/-- The key an option is kept under: its letter, or for one without a letter a character of
its own. -/
def optionKey (entry : Option Char × String) : Char :=
  entry.1.getD (if entry.2 == "nolog" then '\x01' else '\x02')

/-- The value of `$-`: the letters of the options that are on, last option first. -/
def optionLetters (sh : Shell) : String :=
  String.ofList ((optionNames.reverse.filterMap (·.1)).filter sh.opt)

/-- Turn an option on or off by letter; an unknown letter is an error. -/
def setOptionLetter (c : Char) (on : Bool) : Sh Unit := do
  if (optionNames.any (·.1 == some c)) then
    modifyShell fun sh =>
      let sh := sh.setOpt c on
      if on && c == 'V' then sh.setOpt 'E' false else if on && c == 'E' then sh.setOpt 'V' false else sh
  else shError ("Illegal option " ++ (if on then "-" else "+") ++ String.singleton c)

/-- `set -o` and `set +o` without a name: the settings of all options. -/
def showOptions (on : Bool) : Sh Unit := do
  let sh ← getShell
  if on then
    out "Current option settings\n"
    for e in optionNames do
      out (e.2 ++ fill (16 - e.2.length) ' ' ++ (if sh.opt (optionKey e) then "on" else "off") ++ "\n")
  else
    for e in optionNames do
      out ("set " ++ (if sh.opt (optionKey e) then "-o " else "+o ") ++ e.2 ++ "\n")

/-- Turn an option on or off by name; an unknown name is an error. -/
def setOptionName (name : String) (on : Bool) : Sh Unit := do
  match optionNames.find? (·.2 == name) with
  | some e => modifyShell fun sh => sh.setOpt (optionKey e) on
  | none => shError ("Illegal option " ++ (if on then "-" else "+") ++ "o " ++ name)

/-- The shell variables, sorted by name, as `set` lists them. -/
def showVariables (prefix_ : String) (keep : Var → Bool) : Sh Unit := do
  let sh ← getShell
  let vs := (sh.vars.filter fun (_, v) => keep v).mergeSort fun a b => decide (a.1 ≤ b.1)
  for (k, v) in vs do
    out (prefix_ ++ k ++ (if v.unset then "" else "=" ++ singleQuote v.value) ++ "\n")

/-- `set`: options (letters after `-` or `+`, `-o name`), then the positional parameters;
without arguments, the variables. -/
def setBuiltin (args : List String) : Sh Unit := do
  if args.isEmpty then
    showVariables "" fun v => !v.unset
    setStatus 0
    return
  let rec go : Nat → List String → Sh Unit
    | 0, _ => pure ()
    | _ + 1, [] => pure ()
    | fuel + 1, a :: rest => do
      if a == "-" || a == "--" then
        if a == "-" then
          modifyShell fun sh => (sh.setOpt 'x' false).setOpt 'v' false
          if !rest.isEmpty then modifyShell fun sh => { sh with params := rest }
        else modifyShell fun sh => { sh with params := rest }
      else if (a.startsWith "-" || a.startsWith "+") && a.length > 1 then
        let on := a.startsWith "-"
        let rec letters : Nat → List Char → List String → Sh (List String)
          | 0, _, more => pure more
          | _ + 1, [], more => pure more
          | k + 1, c :: cs, more => do
            if c == 'o' then
              match more with
              | name :: more2 =>
                setOptionName name on
                letters k cs more2
              | [] =>
                showOptions on
                letters k cs []
            else
              setOptionLetter c on
              letters k cs more
        let more ← letters (a.length + 1) (a.drop 1).toString.toList rest
        go fuel more
      else modifyShell fun sh => { sh with params := a :: rest }
  go (args.length + 1) args
  setStatus 0

/-- `export` and `readonly`: mark variables (setting those given a value), or list them. -/
def exportBuiltin (readonly : Bool) (args : List String) : Sh Unit := do
  let (opts, operands) ← takeOptions "p" args
  let name := if readonly then "readonly" else "export"
  if operands.isEmpty || !opts.isEmpty then
    showVariables (name ++ " ") fun v => if readonly then v.readonly else v.exported
    setStatus 0
    return
  for a in operands do
    let (k, v?) : String × Option String := match a.splitOn "=" with
      | k :: v :: vs => (k, some ("=".intercalate (v :: vs)))
      | _ => (a, none)
    if !isName k then shError (k ++ ": bad variable name")
    match v? with
    | some v => assignVar k v
    | none => pure ()
    modifyShell fun sh =>
      let sh := if (sh.var? k).isNone then { sh with vars := sh.vars ++ [(k, { value := "", unset := true })] } else sh
      { sh with vars := sh.vars.map fun (n, x) =>
          if n == k then (n, if readonly then { x with readonly := true } else { x with exported := true })
          else (n, x) }
  setStatus 0

/-- `unset`: variables, or with `-f` functions. -/
def unsetBuiltin (args : List String) : Sh Unit := do
  let (opts, operands) ← takeOptions "vf" args
  let funcs := (opts.getLast?.map (·.1)) == some 'f'
  for a in operands do
    if funcs then modifyShell fun sh => { sh with funcs := sh.funcs.filter (·.1 != a) }
    else
      match (← getShell).var? a with
      | some x => if x.readonly then shError (a ++ ": is read only") else modifyShell fun sh => sh.unset a
      | none => pure ()
  setStatus 0

/-- `local`: inside a function, give names values of their own until it returns. -/
def localBuiltin (args : List String) : Sh Unit := do
  let sh ← getShell
  match sh.frames with
  | [] => shError "not in a function"
  | frame :: outer =>
    let mut frame := frame
    for a in args do
      let (k, v?) : String × Option String := match a.splitOn "=" with
        | k :: v :: vs => (k, some ("=".intercalate (v :: vs)))
        | _ => (a, none)
      if !isName k then shError (k ++ ": bad variable name")
      if !frame.any (·.1 == k) then frame := frame ++ [(k, (← getShell).var? k)]
      match v? with
      | some v => assignVar k v
      | none => pure ()
    modifyShell fun sh => { sh with frames := frame :: outer }
    setStatus 0

/-! ## Aliases -/

/-- The bucket of a name in one of the shell's tables of `size` buckets: the first byte times 16
plus every byte. The alias table (`signed`) reads the bytes as signed; the command table reads
them unsigned and keeps 15 bits of the sum. -/
def nameBucket (signed : Bool) (size : Nat) (name : String) : Nat :=
  let bytes := name.toList.map Char.toNat
  let byteValue (b : Nat) : Int := if signed && b ≥ 128 then (b : Int) - 256 else b
  let first := bytes.headD 0
  let total := bytes.foldl (fun acc b => acc + byteValue b) ((first * 16 : Nat) : Int)
  let sum := (total % Int.ofNat (Nat.pow 2 32)).toNat
  (if signed then sum else sum % 0x8000) % size

/-- Entries in the order the shell's table lists them: by bucket, and in a bucket in the order
they were made. -/
def tableOrder {α : Type} (signed : Bool) (size : Nat) (entries : List (String × α)) :
    List (String × α) :=
  (List.range size).flatMap fun b => entries.filter fun e => nameBucket signed size e.1 == b

/-- `alias`: define aliases (one defined again keeps its place), show some, or list them all
in the order of the shell's table. -/
def aliasBuiltin (args : List String) : Sh Unit := do
  let sh ← getShell
  if args.isEmpty then
    for (k, v) in tableOrder true 39 sh.aliases do out (k ++ "=" ++ singleQuote v ++ "\n")
    setStatus 0
    return
  let mut status := 0
  for a in args do
    match (a.drop 1).toString.splitOn "=" with
    | _ :: _ :: _ =>
      let k := (a.take 1).toString ++ ((a.drop 1).toString.splitOn "=").headD ""
      let v := (a.drop (k.length + 1)).toString
      modifyShell fun sh =>
        if sh.aliases.any (·.1 == k) then
          { sh with aliases := sh.aliases.map fun (k2, v2) => if k2 == k then (k2, v) else (k2, v2) }
        else { sh with aliases := sh.aliases ++ [(k, v)] }
    | _ =>
      match (← getShell).aliases.lookup a with
      | some v => out (a ++ "=" ++ singleQuote v ++ "\n")
      | none =>
        err ("alias: " ++ a ++ " not found\n")
        status := 1
  setStatus status

/-- `unalias`: remove aliases, or with `-a` all of them. -/
def unaliasBuiltin (args : List String) : Sh Unit := do
  let (opts, operands) ← takeOptions "a" args
  if !opts.isEmpty then
    modifyShell fun sh => { sh with aliases := [] }
    setStatus 0
    return
  let mut status := 0
  for a in operands do
    if ((← getShell).aliases.lookup a).isSome then
      modifyShell fun sh => { sh with aliases := sh.aliases.filter (·.1 != a) }
    else
      err ("unalias: " ++ a ++ " not found\n")
      status := 1
  setStatus status

/-! ## Reading lines -/

/-- Split a line read by `read` into the values of `count` names. Characters marked `true` were
escaped by a backslash and never separate. Separators are the characters of `ifs`: runs of
blanks among them, and each other one with the blanks around it. The last name takes the rest
of the line without its trailing blanks; when that rest is one field and a separator, the
separator goes too. -/
def readFields (ifs : String) (count : Nat) (line : List (Char × Bool)) : List String :=
  let isSep (c : Char × Bool) : Bool := !c.2 && ifs.contains c.1
  let isWhite (c : Char × Bool) : Bool := isSep c && (c.1 == ' ' || c.1 == '\t' || c.1 == '\n')
  let text (cs : List (Char × Bool)) : String := String.ofList (cs.map (·.1))
  -- one separator: blanks, then at most one other separator character, then blanks
  let skipSep (cs : List (Char × Bool)) : List (Char × Bool) :=
    let cs := cs.dropWhile isWhite
    match cs with
    | c :: rest => if isSep c && !isWhite c then rest.dropWhile isWhite else cs
    | [] => []
  let rec go : Nat → List (Char × Bool) → List String
    | 0, _ => []
    | 1, cs =>
      let rest := (cs.reverse.dropWhile isWhite).reverse
      let field := rest.takeWhile (!isSep ·)
      let after := rest.drop field.length
      let single := match after with
        | [c] => !isWhite c
        | _ => false
      [text (if single then field else rest)]
    | k + 2, cs =>
      let field := cs.takeWhile (!isSep ·)
      let rest := cs.drop field.length
      if field.isEmpty && rest.isEmpty then List.replicate (k + 2) ""
      else text field :: go (k + 1) (skipSep rest)
  go count (line.dropWhile isWhite)

/-- Take one line for `read` from the bytes of standard input: its characters (marked when a
backslash escaped them, unless `raw`), the number of bytes used, and whether the input ended
first. A backslash before a newline joins the lines; NUL bytes are dropped. -/
def takeLine (raw : Bool) : List UInt8 → List (Char × Bool) → Nat → List (Char × Bool) × Nat × Bool
  | [], acc, used => (acc.reverse, used, true)
  | b :: rest, acc, used =>
    if b == 0 then takeLine raw rest acc (used + 1)
    else if b == 10 then (acc.reverse, used + 1, false)
    else if b == 92 && !raw then
      match rest with
      | 10 :: r => takeLine raw r acc (used + 2)
      | 0 :: r => takeLine raw r acc (used + 2)
      | c :: r => takeLine raw r ((Char.ofNat c.toNat, true) :: acc) (used + 2)
      | [] => (acc.reverse, used + 1, true)
    else takeLine raw rest ((Char.ofNat b.toNat, false) :: acc) (used + 1)

/-- `read`: one line from standard input into the named variables; status 1 at the end of the
input. -/
def readBuiltin (args : List String) : Sh Unit := do
  let (opts, names) ← takeOptions "p:r" args
  if names.isEmpty then shError "arg count"
  let raw := opts.any (·.1 == 'r')
  let sh ← getShell
  let (line, status) ← match ← unread 0 with
    | some data =>
      let (line, used, ended) := takeLine raw data [] 0
      consume 0 used
      if ended then markDrained 0
      pure (line, if ended then 1 else 0)
    | none => pure ([], 1)
  let ifs := (sh.get? "IFS").getD " \t\n"
  let vals := readFields ifs names.length line
  for (name, i) in names.zipIdx do
    assignVar name (vals.getD i "")
  setStatus status

/-! ## Options of scripts -/

/-- `getopts optstring var [arg…]`: the next option of the arguments (the positional
parameters by default) into `var`, its argument into `OPTARG`, and the index of the next word
into `OPTIND`; status 1 when the options are done. -/
def getoptsBuiltin (args : List String) : Sh Unit := do
  match args with
  | optstr :: var :: rest =>
    let sh ← getShell
    let words := if rest.isEmpty then sh.params else rest
    let indText := (sh.get? "OPTIND").getD "1"
    let ind := (indText.toNat?).getD 1
    let (ind, off) : Nat × Option Nat :=
      match sh.optOffset with
      | some (t, o) => if t == indText && ind > 1 then (ind, some o) else (ind, none)
      | none => (ind, none)
    let ind := if ind > words.length + 1 then 1 else ind
    let off := if ind ≤ 1 then none else off
    let silent := optstr.startsWith ":"
    let finish (next : Nat) (c : String) (offset : Option Nat) (done : Bool) : Sh Unit := do
      let t := toString next
      modifyShell fun sh => (sh.set "OPTIND" t).set var c
      modifyShell fun sh => { sh with optOffset := offset.map (t, ·) }
      setStatus (if done then 1 else 0)
    -- the word and position to read the next option letter from
    let current : Option (List Char × Nat) :=
      match off with
      | some o =>
        let w := (words.getD (ind - 2) "").toList
        if o < w.length then some (w.drop o, ind) else none
      | none => none
    let start : Option (List Char × Nat) :=
      match current with
      | some x => some x
      | none =>
        match words[ind - 1]? with
        | some w =>
          if w == "--" then none
          else if w.startsWith "-" && w.length > 1 then some ((w.drop 1).toString.toList, ind + 1)
          else none
        | none => none
    let atEnd : Bool := current.isNone && words.getD (ind - 1) "" == "--" && ind ≤ words.length
    match start with
    | none => finish (if atEnd then ind + 1 else ind) "?" none true
    | some (cs, next) =>
      match cs with
      | [] => finish next "?" none true
      | c :: more =>
        let word := words.getD (next - 2) ""
        let offsetAfter := word.length - more.length
        match (optstr.toList.dropWhile (· != c)) with
        | [] =>
          if silent then modifyShell fun sh => sh.set "OPTARG" (String.singleton c)
          else
            err ("Illegal option -" ++ String.singleton c ++ "\n")
            modifyShell fun sh => sh.unset "OPTARG"
          finish next "?" (if more.isEmpty then none else some offsetAfter) false
        | _ :: ':' :: _ =>
          if !more.isEmpty then
            modifyShell fun sh => sh.set "OPTARG" (String.ofList more)
            finish next (String.singleton c) none false
          else
            match words[next - 1]? with
            | some a =>
              modifyShell fun sh => sh.set "OPTARG" a
              finish (next + 1) (String.singleton c) none false
            | none =>
              if silent then
                modifyShell fun sh => sh.set "OPTARG" (String.singleton c)
                finish next ":" none false
              else
                err ("No arg for -" ++ String.singleton c ++ " option\n")
                modifyShell fun sh => sh.unset "OPTARG"
                finish next "?" none false
        | _ =>
          modifyShell fun sh => sh.set "OPTARG" ""
          finish next (String.singleton c) (if more.isEmpty then none else some offsetAfter) false
  | _ => shError "Usage: getopts optstring var [arg...]"

end Fanout.Posix
