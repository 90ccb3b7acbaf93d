import Fanout.Programs.Basic
import Fanout.Programs.Batch
import Fanout.Programs.Change
import Fanout.Programs.Listing
import Fanout.Posix.Pattern
import Fanout.Text.Regex

/-!
# `find`: walking trees of files

`find` walks the tree below each starting point and evaluates an expression on every name it
meets: tests (`-name`, `-type`, `-size`, …) that are true or false, and actions (`-print`,
`-exec`, `-delete`, …) that do something. Terms side by side must all hold (`-a` may be
written between them); `-o` takes either, `!` the opposite, and parentheses group. An
expression without an action prints each name for which it holds.

Each directory is listed in order of name. Global options (`-maxdepth`, `-mindepth`, `-depth`)
hold for the whole walk wherever they stand; `-delete` implies `-depth`, which takes the names
in a directory before the directory itself.
-/

namespace Fanout.Programs

open Fanout.Posix Fanout.Host Fanout.Text

/-- A comparison of a number with a bound: more (`+n`), less (`-n`) or exactly (`n`). -/
inductive Bound where
  | more (n : Nat)
  | less (n : Nat)
  | exactly (n : Nat)

/-- Whether a number meets a bound. -/
def Bound.holds : Bound → Nat → Bool
  | .more n, v => v > n
  | .less n, v => v < n
  | .exactly n, v => v == n

/-- Read a bound: an optional `+` or `-`, then digits, then what `suffix` accepts after them. -/
def readBound (s : String) : Option (Bound × String) :=
  let (mk, body) : (Nat → Bound) × List Char := match s.toList with
    | '+' :: r => (Bound.more, r)
    | '-' :: r => (Bound.less, r)
    | r => (Bound.exactly, r)
  let ds := body.takeWhile Char.isDigit
  if ds.isEmpty then none
  else some (mk (ds.foldl (fun v c => v * 10 + (c.toNat - 48)) 0), String.ofList (body.drop ds.length))

/-- A test or action of an expression. -/
inductive FindTest where
  | name (pattern : List PatItem) (icase : Bool)
  | path (pattern : List PatItem) (icase : Bool)
  | regex (re : Regex)
  | kind (letters : List Char) (follow : Bool)
  | empty
  /-- The size in units of `unit` bytes, rounded up. -/
  | size (b : Bound) (unit : Nat)
  /-- Permission bits: exactly (`=`), all of them (`-`) or any of them (`/`). -/
  | perm (how : Char) (mode : Nat)
  | newer (file : String)
  /-- The age in days or minutes; every file here is new. -/
  | age (b : Bound)
  | links (b : Bound)
  | constant (b : Bool)
  | executable
  | print (ending : String)
  | printf (format : String)
  | prune
  | delete
  | quit
  /-- Run a command on the name, or (`batch`) on many names at once. -/
  | exec (command : List String) (batch : Bool)

/-- An expression of `find`. -/
inductive FindExpr where
  | test (t : FindTest)
  | not (e : FindExpr)
  | and (a b : FindExpr)
  | or (a b : FindExpr)
  | seq (a b : FindExpr)

/-- The settings an expression gives the whole walk. -/
structure FindSettings where
  maxDepth : Option Nat := none
  minDepth : Nat := 0
  depthFirst : Bool := false
  hasAction : Bool := false
  /-- The last test or action read: a global option after one is out of place. -/
  lastTest : Option String := none
  /-- Warnings about global options out of place. -/
  warnings : List String := []

/-- Reading an expression: the settings so far, or the message that ends `find`. -/
abbrev FindParse := StateT FindSettings (Except String)

/-- A pattern of `-name` or `-path`, lowered when case is ignored. -/
def findPattern (icase : Bool) (p : String) : List PatItem :=
  let p := if icase then p.toLower else p
  toPattern (p.length + 1) (p.toList.map (·, false))

/-- Read the primary that `word` starts, with its arguments from `rest`. -/
def readPrimary (word : String) (rest : List String) : FindParse (FindExpr × List String) := do
  let arg : FindParse (String × List String) := match rest with
    | a :: more => pure (a, more)
    | [] => throw ("missing argument to `" ++ word ++ "'")
  let test (t : FindTest) (r : List String) : FindParse (FindExpr × List String) := do
    modify fun s => { s with lastTest := some word }
    pure (.test t, r)
  let action (t : FindTest) (r : List String) : FindParse (FindExpr × List String) := do
    modify fun s => { s with lastTest := some word, hasAction := true }
    pure (.test t, r)
  let global (r : List String) (change : FindSettings → FindSettings) :
      FindParse (FindExpr × List String) := do
    let s ← get
    let s := match s.lastTest with
      | some before =>
        { s with warnings := s.warnings ++ ["warning: you have specified the global option " ++
          word ++ " after the argument " ++ before ++ ", but global options are not positional, " ++
          "i.e., " ++ word ++ " affects tests specified before it as well as those specified " ++
          "after it.  Please specify global options before other arguments."] }
      | none => s
    set (change s)
    pure (.test (.constant true), r)
  let depthArg (r : List String) : FindParse (Nat × List String) := do
    match r with
    | a :: more =>
      match a.toNat? with
      | some k => pure (k, more)
      | none => throw ("Expected a positive decimal integer argument to " ++ word ++ ", but got `" ++ a ++ "'")
    | [] => throw ("missing argument to `" ++ word ++ "'")
  match word with
  | "-name" | "-iname" =>
    let (p, r) ← arg
    test (.name (findPattern (word == "-iname") p) (word == "-iname")) r
  | "-path" | "-wholename" | "-ipath" | "-iwholename" =>
    let (p, r) ← arg
    let icase := word.startsWith "-i"
    test (.path (findPattern icase p) icase) r
  | "-regex" | "-iregex" =>
    let (p, r) ← arg
    match Regex.parse false p (word == "-iregex") with
    | .ok re => test (.regex re) r
    | .error e => throw e
  | "-type" | "-xtype" =>
    let (t, r) ← arg
    let letters := (t.splitOn ",").map (·.toList)
    if letters.all fun l => l.length == 1 && "bcdpflsD".toList.contains (l.headD ' ') then
      test (.kind (letters.map (·.headD ' ')) (word == "-xtype")) r
    else if t.isEmpty then throw ("Arguments to -type should contain at least one letter")
    else throw ("Unknown argument to " ++ word ++ ": " ++ t)
  | "-empty" => test .empty rest
  | "-true" => test (.constant true) rest
  | "-false" => test (.constant false) rest
  | "-nouser" | "-nogroup" => test (.constant false) rest
  | "-readable" | "-writable" => test (.constant true) rest
  | "-executable" => test .executable rest
  | "-size" =>
    let (v, r) ← arg
    match readBound v with
    | some (b, unit) =>
      let bytes := match unit with
        | "" | "b" => some 512
        | "c" => some 1
        | "w" => some 2
        | "k" => some 1024
        | "M" => some 1048576
        | "G" => some 1073741824
        | _ => none
      match bytes with
      | some u => test (.size b u) r
      | none => throw ("invalid -size type `" ++ unit ++ "'")
    | none => throw ("invalid argument `" ++ v ++ "' to `-size'")
  | "-perm" =>
    let (v, r) ← arg
    let (how, body) := match v.toList with
      | '-' :: b => ('-', String.ofList b)
      | '/' :: b => ('/', String.ofList b)
      | _ => ('=', v)
    match readMode body with
    | some changes => test (.perm how (applyMode changes false 0 0)) r
    | none => throw ("invalid mode `" ++ v ++ "'")
  | "-newer" | "-anewer" | "-cnewer" =>
    let (f, r) ← arg
    test (.newer f) r
  | "-mtime" | "-atime" | "-ctime" | "-mmin" | "-amin" | "-cmin" =>
    let (v, r) ← arg
    match readBound v with
    | some (b, "") => test (.age b) r
    | _ => throw ("invalid argument `" ++ v ++ "' to `" ++ word ++ "'")
  | "-links" =>
    let (v, r) ← arg
    match readBound v with
    | some (b, "") => test (.links b) r
    | _ => throw ("invalid argument `" ++ v ++ "' to `-links'")
  | "-user" | "-group" =>
    let (v, r) ← arg
    if v == "root" || v == "0" then test (.constant true) r
    else throw ((if word == "-user" then "'" ++ v ++ "' is not the name of a known user"
      else "'" ++ v ++ "' is not the name of an existing group"))
  | "-uid" | "-gid" =>
    let (v, r) ← arg
    match readBound v with
    | some (b, "") => test (.constant (b.holds 0)) r
    | _ => throw ("invalid argument `" ++ v ++ "' to `" ++ word ++ "'")
  | "-print" => action (.print "\n") rest
  | "-print0" => action (.print "\x00") rest
  | "-printf" =>
    let (f, r) ← arg
    action (.printf f) r
  | "-ls" | "-fls" => action (.print "\n") rest
  | "-prune" => test .prune rest
  | "-quit" => action .quit rest
  | "-delete" =>
    modify fun s => { s with depthFirst := true }
    action .delete rest
  | "-exec" | "-execdir" | "-ok" | "-okdir" =>
    let cmd := rest.takeWhile fun a => a != ";" && a != "+"
    match rest.drop cmd.length with
    | ";" :: r =>
      if cmd.isEmpty then throw ("missing argument to `" ++ word ++ "'")
      else action (.exec cmd false) r
    | "+" :: r =>
      if cmd.getLast? == some "\x7b\x7d" && cmd.length > 1 then action (.exec cmd.dropLast true) r
      else throw ("missing argument to `" ++ word ++ "'")
    | _ => throw ("missing argument to `" ++ word ++ "'")
  | "-maxdepth" =>
    let (k, r) ← depthArg rest
    global r fun s => { s with maxDepth := some k }
  | "-mindepth" =>
    let (k, r) ← depthArg rest
    global r fun s => { s with minDepth := k }
  | "-depth" | "-d" => global rest fun s => { s with depthFirst := true }
  | "-xdev" | "-mount" | "-noleaf" | "-ignore_readdir_race" | "-noignore_readdir_race"
  | "-daystart" | "-follow" => global rest id
  | "-regextype" =>
    let (_, r) ← arg
    global r id
  | _ =>
    if word.startsWith "-" then throw ("unknown predicate `" ++ word ++ "'")
    else throw ("paths must precede expression: `" ++ word ++ "'")

mutual

/-- Read terms joined by `,`. -/
def readSequence : Nat → List String → FindParse (FindExpr × List String)
  | 0, _ => throw "expression too deep"
  | k + 1, ws => do
    let (a, r) ← readAlternatives k ws
    match r with
    | "," :: more =>
      let (b, r2) ← readSequence k more
      pure (.seq a b, r2)
    | _ => pure (a, r)

/-- Read terms joined by `-o`. -/
def readAlternatives : Nat → List String → FindParse (FindExpr × List String)
  | 0, _ => throw "expression too deep"
  | k + 1, ws => do
    let (a, r) ← readConjunction k ws
    match r with
    | w :: more =>
      if w == "-o" || w == "-or" then
        let (b, r2) ← readAlternatives k more
        pure (.or a b, r2)
      else pure (a, r)
    | [] => pure (a, r)

/-- Read terms side by side or joined by `-a`. -/
def readConjunction : Nat → List String → FindParse (FindExpr × List String)
  | 0, _ => throw "expression too deep"
  | k + 1, ws => do
    let (a, r) ← readUnary k ws
    match r with
    | w :: more =>
      if w == "-a" || w == "-and" then
        match more with
        | [] => throw "invalid expression; you have used a binary operator '-a' with nothing after it."
        | _ =>
          let (b, r2) ← readConjunction k more
          pure (.and a b, r2)
      else if w == "-o" || w == "-or" || w == ")" || w == "," then pure (a, r)
      else
        let (b, r2) ← readConjunction k r
        pure (.and a b, r2)
    | [] => pure (a, r)

/-- Read a term: `!` and a term, a parenthesized expression, or a primary. -/
def readUnary : Nat → List String → FindParse (FindExpr × List String)
  | 0, _ => throw "expression too deep"
  | k + 1, ws => do
    match ws with
    | [] => throw "invalid expression"
    | w :: rest =>
      if w == "!" || w == "-not" then
        match rest with
        | [] => throw "invalid expression; you have used a binary operator '!' with nothing after it."
        | _ =>
          let (e, r) ← readUnary k rest
          pure (.not e, r)
      else if w == "(" then
        match rest with
        | ")" :: _ => throw "invalid expression; empty parentheses are not allowed."
        | _ =>
          let (e, r) ← readSequence k rest
          match r with
          | ")" :: more => pure (e, more)
          | _ => throw "invalid expression; I was expecting to find a ')' somewhere but did not see one."
      else if w == "-o" || w == "-or" || w == "-a" || w == "-and" then
        throw ("invalid expression; you have used a binary operator '" ++ w ++ "' with nothing before it.")
      else if w == ")" then throw "invalid expression; you have too many ')'"
      else readPrimary w rest

end

/-- Read a whole expression: the expression (true when there is none) and the settings. -/
def readFindExpr (ws : List String) : Except String (FindExpr × FindSettings) := do
  if ws.isEmpty then return (.test (.constant true), {})
  let ((e, rest), st) ← (readSequence (4 * ws.length + 4) ws).run {}
  match rest with
  | [] => pure (e, st)
  | ")" :: _ => throw "invalid expression; you have too many ')'"
  | w :: _ => throw ("paths must precede expression: `" ++ w ++ "'")

/-- A name the walk meets: as printed, its absolute path, its node, its depth, and the
starting point it was reached from. -/
structure FindEntry where
  shown : String
  path : String
  node : Node
  depth : Nat
  root : String

/-- The last name of a path as `find` sees it: trailing slashes dropped, `/` for the root. -/
def findBaseName (p : String) : String :=
  match (p.splitOn "/").filter (· != "") with
  | [] => if p.startsWith "/" then "/" else p
  | ps => ps.getLastD p

/-- The directory part of a path for `%h`: `.` when there is none. -/
def findDirName (p : String) : String :=
  let cs := p.toList
  let trimmed := if cs.length > 1 && cs.getLast? == some '/' then cs.dropLast else cs
  match trimmed.reverse.dropWhile (· != '/') with
  | [] => "."
  | _ :: before => String.ofList before.reverse

/-- The type letter of a node as `-type` and `%y` name it. -/
def findTypeLetter : Node → Char
  | .dir _ => 'd'
  | .link _ => 'l'
  | .device _ => 'c'
  | _ => 'f'

/-- Write an entry as a `-printf` format asks. -/
def findFormat (fs : Fs) (e : FindEntry) (fmt : String) : String :=
  let field (c : Char) : Option String :=
    match c with
    | 'p' => some e.shown
    | 'f' => some (findBaseName e.shown)
    | 'h' => some (findDirName e.shown)
    | 'P' =>
      let rel := (e.shown.drop e.root.length).toString
      some (if rel.startsWith "/" then (rel.drop 1).toString else rel)
    | 'H' => some e.root
    | 'd' => some (toString e.depth)
    | 's' => some (toString e.node.size)
    | 'm' => some (String.ofList (Nat.toDigits 8 (e.node.mode % 0o10000)))
    | 'M' => some (modeText e.node)
    | 'y' => some (String.singleton (findTypeLetter e.node))
    | 'Y' => some (String.singleton (findTypeLetter e.node))
    | 'u' | 'g' => some "root"
    | 'U' | 'G' => some "0"
    | 'n' => some (toString (linkCount fs e.path e.node))
    | 'k' => some (toString (diskKilobytes e.node))
    | 'l' => some (match e.node with
      | .link t => t
      | _ => "")
    | _ => none
  let rec go : Nat → List Char → String → String
    | 0, _, acc => acc
    | _ + 1, [], acc => acc
    | k + 1, '\\' :: c :: rest, acc =>
      match c with
      | 'n' => go k rest (acc.push '\n')
      | 't' => go k rest (acc.push '\t')
      | 'r' => go k rest (acc.push '\r')
      | 'a' => go k rest (acc.push (Char.ofNat 7))
      | 'b' => go k rest (acc.push (Char.ofNat 8))
      | 'f' => go k rest (acc.push (Char.ofNat 12))
      | 'v' => go k rest (acc.push (Char.ofNat 11))
      | '0' => go k rest (acc.push (Char.ofNat 0))
      | '\\' => go k rest (acc.push '\\')
      | 'c' => acc
      | _ => go k rest ((acc.push '\\').push c)
    | k + 1, '%' :: rest, acc =>
      let flags := rest.takeWhile fun c => "-+ #0".toList.contains c
      let r1 := rest.drop flags.length
      let width := r1.takeWhile Char.isDigit
      let r2 := r1.drop width.length
      match r2 with
      | '%' :: r3 => go k r3 (acc.push '%')
      | c :: r3 =>
        match field c with
        | some v =>
          let w := width.foldl (fun n d => n * 10 + (d.toNat - 48)) 0
          let pad := String.ofList (List.replicate (w - v.length) ' ')
          go k r3 (acc ++ (if flags.contains '-' then v ++ pad else pad ++ v))
        | none => go k r3 ((acc.push '%').append (String.ofList (flags ++ width ++ [c])))
      | [] => acc.push '%'
    | k + 1, c :: rest, acc => go k rest (acc.push c)
  go (fmt.length + 1) fmt.toList ""

/-- What a walk has done so far. -/
structure FindRun where
  pruned : Bool := false
  quit : Bool := false
  failed : Bool := false
  /-- The commands of `-exec … +` with the names gathered for each. -/
  batches : List (List String × List String) := []

/-- The walk's monad: the run's state over the shell's. -/
abbrev FindM := StateT FindRun Sh

/-- Replace each `{}` in the words of a command with a name. -/
def fillBraces (name : String) (cmd : List String) : List String :=
  cmd.map fun w => w.replace "\x7b\x7d" name

/-- Evaluate a test or action on an entry. -/
def evalTest (spawn : Spawn) (e : FindEntry) : FindTest → FindM Bool
  | .name pat icase =>
    let base := findBaseName e.shown
    pure (patMatch pat (if icase then base.toLower else base).toList)
  | .path pat icase => pure (patMatch pat (if icase then e.shown.toLower else e.shown).toList)
  | .regex re =>
    let s := e.shown.toList.toArray
    pure ((stepRx re.icase s (s.size + 64) re.rx 0 []).any (·.1 == s.size))
  | .kind letters follow => do
    let w ← getThe Posix.World
    let node := if follow then
        match e.node with
        | .link _ => (match w.p.fs.stat "/" e.path with
          | .ok n => n
          | .error _ => e.node)
        | n => n
      else e.node
    pure (letters.contains (findTypeLetter node))
  | .empty => do
    let w ← getThe Posix.World
    pure (match e.node with
      | .file c _ => c.isEmpty
      | .dir _ => (w.p.fs.children e.path).isEmpty
      | _ => false)
  | .size b unit => pure (b.holds ((e.node.size + unit - 1) / unit))
  | .perm how mode =>
    let m := e.node.mode % 0o10000
    pure (match how with
      | '-' => m &&& mode == mode
      | '/' => mode == 0 || m &&& mode != 0
      | _ => m == mode)
  | .newer f => do
    let w ← getThe Posix.World
    match w.p.fs.resolve w.sh.cwd f with
    | .ok q => pure (w.p.fs.stamp e.path > w.p.fs.stamp q)
    | .error _ => pure false
  | .age b => pure (b.holds 0)
  | .links b => do
    let w ← getThe Posix.World
    pure (b.holds (linkCount w.p.fs e.path e.node))
  | .constant v => pure v
  | .executable => pure (e.node.mode &&& 0o111 != 0 || e.node matches .dir _)
  | .print ending => do
    out (e.shown ++ ending)
    pure true
  | .printf fmt => do
    let w ← getThe Posix.World
    out (findFormat w.p.fs e fmt)
    pure true
  | .prune => do
    modify fun r => { r with pruned := true }
    pure true
  | .quit => do
    modify fun r => { r with quit := true }
    pure true
  | .delete => do
    let w ← getThe Posix.World
    match e.node with
    | .dir _ =>
      if !(w.p.fs.children e.path).isEmpty then
        say "find" ("cannot delete " ++ (← quoted e.shown) ++ ": Directory not empty")
        modify fun r => { r with failed := true }
        pure false
      else
        modifyProc fun p => { p with fs := p.fs.remove e.path }
        pure true
    | _ =>
      modifyProc fun p => { p with fs := p.fs.remove e.path }
      pure true
  | .exec cmd batch => do
    if batch then
      modify fun r =>
        if r.batches.any (·.1 == cmd) then
          { r with batches := r.batches.map fun (c, ns) => if c == cmd then (c, ns ++ [e.shown]) else (c, ns) }
        else { r with batches := r.batches ++ [(cmd, [e.shown])] }
      pure true
    else
      let words := fillBraces e.shown cmd
      match ← spawn (words.headD "") (words.drop 1) none with
      | .ok ended => pure (ended.status == 0)
      | .error (_, err) =>
        say "find" ((← quoted (words.headD "")) ++ ": " ++ err.description)
        modify fun r => { r with failed := true }
        pure false

/-- Evaluate an expression on an entry, left to right, stopping as soon as the value is
known, and at `-quit`. -/
def evalFind (spawn : Spawn) (e : FindEntry) : FindExpr → FindM Bool
  | .test t => evalTest spawn e t
  | .not x => do return !(← evalFind spawn e x)
  | .and a b => do
    if ← evalFind spawn e a then
      if (← get).quit then return true
      evalFind spawn e b
    else return false
  | .or a b => do
    if ← evalFind spawn e a then return true
    if (← get).quit then return false
    evalFind spawn e b
  | .seq a b => do
    let _ ← evalFind spawn e a
    if (← get).quit then return false
    evalFind spawn e b

/-- Walk the tree from an entry: evaluate the expression on it (after what is below it when
`depthFirst`), and go into a directory unless `-prune` said no or the depth is reached. -/
def walkFind (spawn : Spawn) (expr : FindExpr) (st : FindSettings) (follow : Bool) :
    Nat → FindEntry → FindM Unit
  | 0, _ => pure ()
  | k + 1, e => do
    if (← get).quit then return
    let inRange := e.depth ≥ st.minDepth && st.maxDepth.all (e.depth ≤ ·)
    modify fun r => { r with pruned := false }
    if !st.depthFirst && inRange then
      let _ ← evalFind spawn e expr
    let pruned := (← get).pruned && !st.depthFirst
    if (e.node matches .dir _) && !pruned && st.maxDepth.all (e.depth < ·) then
      let w ← getThe Posix.World
      let kids := (w.p.fs.children e.path).mergeSort fun a b => decide (a.1 < b.1) || a.1 == b.1
      for (name, node) in kids do
        let path := joinPath e.path name
        let node := if follow then
            match node with
            | .link _ => (match w.p.fs.stat "/" path with
              | .ok n => n
              | .error _ => node)
            | n => n
          else node
        let shown := if e.shown.endsWith "/" then e.shown ++ name else e.shown ++ "/" ++ name
        walkFind spawn expr st follow k { shown, path, node, depth := e.depth + 1, root := e.root }
    if st.depthFirst && inRange && !(← get).quit then
      let _ ← evalFind spawn e expr

/-- The `find` program. -/
def findProgram (name : String) (args : List String) (spawn : Spawn) : Sh Unit := do
  -- Options that say how links are followed come first.
  let flags := args.takeWhile fun a => a == "-H" || a == "-L" || a == "-P"
  let follow := flags.getLast? == some "-L"
  let followRoots := follow || flags.getLast? == some "-H"
  let rest := args.drop flags.length
  let isExprStart (a : String) : Bool :=
    (a.startsWith "-" && a.length > 1) || a == "(" || a == "!" || a == ")" || a == ","
  let roots := rest.takeWhile (!isExprStart ·)
  let exprWords := rest.drop roots.length
  let (expr, st) ← match readFindExpr exprWords with
    | .ok r => pure r
    | .error msg =>
      say name msg
      exitWith 1
  for wmsg in st.warnings do say name wmsg
  let expr := if st.hasAction then expr else .and expr (.test (.print "\n"))
  let roots := if roots.isEmpty then ["."] else roots
  let w ← get
  let fuel := w.p.fs.nodes.length + 2
  let mut run : FindRun := {}
  for r in roots do
    if !run.quit then
      let w ← get
      let found := if followRoots then
          match w.p.fs.resolve w.sh.cwd r with
          | .ok q => (w.p.fs.node? q).map (q, ·)
          | .error _ => none
        else
          match w.p.fs.lookup w.sh.cwd r with
          | .ok (q, n) => some (q, n)
          | .error _ => none
      match found with
      | some (q, n) =>
        let ((), run2) ← (walkFind spawn expr st follow fuel
          { shown := r, path := q, node := n, depth := 0, root := r }).run run
        run := run2
      | none =>
        let why := match w.p.fs.lookup w.sh.cwd r with
          | .error e => e.description
          | .ok _ => OsError.notFound.description
        say name ((← quoted r) ++ ": " ++ why)
        run := { run with failed := true }
  for (cmd, names) in run.batches do
    match ← spawn (cmd.headD "") (cmd.drop 1 ++ names) none with
    | .ok ended => if ended.status != 0 then run := { run with failed := true }
    | .error (_, e) =>
      say name ((← quoted (cmd.headD "")) ++ ": " ++ e.description)
      run := { run with failed := true }
  exitWith (if run.failed then 1 else 0)

end Fanout.Programs
