import Fanout.Posix.Parse
import Fanout.Posix.Pattern
import Fanout.Posix.Fields
import Fanout.Posix.Glob
import Fanout.Posix.Launch
import Fanout.Posix.Builtins
import Fanout.Posix.Dialect
import Fanout.Programs.Printf
import Fanout.Programs.Info
import Fanout.Programs.Files
import Fanout.Programs.Seq
import Fanout.Programs.Lines
import Fanout.Programs.Sort
import Fanout.Programs.Layout
import Fanout.Programs.Digest
import Fanout.Programs.Factor
import Fanout.Programs.Listing
import Fanout.Programs.Change
import Fanout.Programs.Batch
import Fanout.Programs.Find
import Fanout.Programs.Grep
import Fanout.Programs.Date
import Fanout.Programs.Dump
import Fanout.Programs.Translate
import Fanout.Programs.Expr
import Fanout.Programs.Condition
import Fanout.Programs.Sed
import Fanout.Programs.Awk

/-!
# Running shell commands

The interpreter: expansion of words (parameters, arithmetic, command substitution, field
splitting, pathnames), simple and compound commands, redirections, functions, builtins, programs,
subshells, pipelines and background jobs.

A foreground child (a program, a subshell, a command substitution, a pipe stage) runs at once
with its own process state and receives the signals of the process group; the parent then
waits for it, receiving its own signals meanwhile. A background job is not run when started:
it is recorded, and run on demand (for `wait`, and at the end to collect its output), which is
sound because a job's behaviour depends only on its start, the signals it receives and its own
commands.

Every function takes a fuel argument that bounds the nesting of calls; the process's step
budget bounds the total work, and a process that uses it up counts as running forever. The
steps are weighed to follow the work: a simple command costs by its words, assignments and
redirections and the length of its expanded text, and arithmetic, patterns, function calls,
reading a text and starting a process cost more.
-/

namespace Fanout.Posix

open Fanout.Host Fanout.Programs

/-- What a background job did when run: its writes, when it ended (`none`: never), and how. -/
structure JobRun where
  log : Array Output
  finish : Option Nat
  exit : Exit
  deriving Inhabited

/-- The special builtins: their assignments stay, and their errors end the shell. -/
def specialBuiltins : List String :=
  ["break", ":", ".", "continue", "eval", "exec", "exit", "export", "readonly", "return", "set",
   "shift", "times", "trap", "unset", "local"]

/-- The other builtins. -/
def regularBuiltins : List String :=
  ["echo", "printf", "test", "[", "pwd", "cd", "kill", "wait", "read", "true", "false", "ulimit",
   "umask", "command", "type", "getopts", "alias", "unalias", "hash", "jobs", "fg", "bg"]

/-- The value of a parameter, `none` when it is unset. -/
def paramValue? (sh : Shell) (name : String) : Option String :=
  match name with
  | "@" => some (" ".intercalate sh.params)
  | "*" =>
    let sep := match sh.get? "IFS" with
      | some s => (s.toList.head?.map String.singleton).getD ""
      | none => " "
    some (sep.intercalate sh.params)
  | "#" => some (toString sh.params.length)
  | "?" => some (toString sh.status)
  | "$" => some (toString sh.pid)
  | "!" => sh.lastBg.map toString
  | "-" => some (optionLetters sh)
  | "0" => some sh.arg0
  | _ =>
    if !name.isEmpty && name.all Char.isDigit then
      match name.toNat? with
      | some k => if k == 0 then some sh.arg0 else sh.params[k - 1]?
      | none => none
    else sh.get? name

/-- The field separators. -/
def Shell.ifs (sh : Shell) : String := (sh.get? "IFS").getD " \t\n"

/-- The environment of a child: the exported variables with the command's assignments. -/
def envFor (sh : Shell) (vals : List (String × String)) : List (String × String) :=
  (sh.environment.filter fun (k, _) => !vals.any (·.1 == k)) ++ vals

/-- The state a new shell process starts from: the environment's variables, the parent's
directory, descriptors and limits, and the signals the parent ignores. -/
def freshShell (parent : Shell) (pid : Nat) (env : List (String × String)) : Shell :=
  { arg0 := "sh", pid, cwd := parent.cwd, fds := parent.fds, limits := parent.limits,
    vars := env.map (fun (k, v) => (k, { value := v, exported := true })) ++
      (if env.any (·.1 == "PATH") then [] else [("PATH", { value := defaultPath })]) ++
      [("IFS", { value := " \t\n" }), ("PS1", { value := "$ " }), ("PS2", { value := "> " }),
       ("PS4", { value := "+ " }), ("OPTIND", { value := "1" })],
    traps := parent.traps.filter (·.2 == .ignore) }

/-- Record a background job for `c`. -/
def spawnJob (c : Cmd) : Sh Unit := do
  let w ← get
  let pid := w.p.nextPid + 1
  let shell := (w.sh.forSubshell).setFd 0 .null
  let job : Job := { pid, start := w.p.now, shell, cmd := c }
  modifyProc fun p => { p with nextPid := pid, jobs := p.jobs ++ [job] }
  modifyShell fun sh => { sh with lastBg := some pid, status := 0 }

/-- Send signal `sig` to the process `pid` from this process. -/
def sendSignal (pid sig : Nat) : Sh Bool := do
  let w ← get
  if pid == w.p.self then
    selfSignal sig
    return true
  else if w.p.jobs.any (·.pid == pid) then
    if sig != 0 then
      modifyProc fun p => { p with jobs := p.jobs.map fun j =>
        if j.pid == pid then { j with kills := j.kills ++ [(p.now, sig)] } else j }
    return true
  else if pid == w.sh.pid then
    if sig != 0 then modifyProc fun p => { p with outbound := p.outbound ++ [(pid, p.now, sig)] }
    return true
  else return false

/-- The number of a signal given by number (below 65) or by name without `SIG`, in any case. -/
def signalArg? (s : String) : Option Nat :=
  if !s.isEmpty && s.all Char.isDigit then
    match s.toNat? with
    | some k => if k < 65 then some k else none
    | none => none
  else
    let up := s.toUpper
    (signalNames.find? (·.2 == up)).map (·.1)

/-- `kill`: send a signal (`-s name`, `-name` or `-number`, `SIGTERM` by default) to processes,
or list the signals' names with `-l`. -/
def killBuiltin (args : List String) : Sh Unit := do
  let usage := "Usage: kill [-s sigspec | -signum | -sigspec] [pid | job]... or\nkill -l [exitstatus]"
  if args.isEmpty then shError usage
  let (sig, list, targets) ← match args with
    | a :: rest =>
      if a.startsWith "-" then
        match signalArg? (a.drop 1).toString with
        | some k => pure (some k, false, rest)
        | none => do
          let (opts, ops) ← takeOptions "ls:" args
          let mut sig : Option Nat := none
          let mut list := false
          for (c, v) in opts do
            if c == 'l' then list := true
            else
              match signalArg? v with
              | some k => sig := some k
              | none => shError ("invalid signal number or name: " ++ v)
          pure (sig, list, ops)
      else pure (none, false, args)
    | [] => pure (none, false, [])
  let sig := if !list && sig.isNone then some 15 else sig
  if (sig.isNone || targets.isEmpty) != list then shError usage
  if list then
    match targets with
    | [] =>
      out ("0\n" ++ String.join ((List.range 64).map fun i => listedName (i + 1) ++ "\n"))
      setStatus 0
    | t :: _ =>
      let k ← countArg t
      let k := if k > 128 then k - 128 else k
      if 0 < k && k < 65 then
        out (listedName k ++ "\n")
        setStatus 0
      else shError ("invalid signal number or exit status: " ++ t)
  else
    let sig := sig.getD 15
    let mut status := 0
    for t in targets do
      let jobs := (← getProc).jobs
      let pid? : Option Nat :=
        if t.startsWith "%" then
          match (t.drop 1).toString.toNat? with
          | some k => jobs[k - 1]?.map (·.pid)
          | none => none
        else if !t.isEmpty && t.all Char.isDigit then t.toNat?
        else none
      match pid? with
      | some pid =>
        if !(← sendSignal pid sig) then
          complain "No such process\n"
          status := 1
      | none => shError ("Illegal number: " ++ t)
    setStatus status

/-- `hash`: list the programs found by searching `PATH` (in the order of the shell's table),
forget them all with `-r`, or search for the names given. -/
def hashBuiltin (args : List String) : Sh Unit := do
  let (opts, names) ← takeOptions "r" args
  if !opts.isEmpty then
    modifyShell fun sh => { sh with hashed := [] }
    setStatus 0
  else if names.isEmpty then
    for (_, p) in tableOrder false 31 (← getShell).hashed do out (p ++ "\n")
    setStatus 0
  else
    let mut status := 0
    for name in names do
      let w ← get
      match searchPath w.p.fs w.sh.cwd ((w.sh.get? "PATH").getD defaultPath) name with
      | .path p =>
        modifyShell fun sh =>
          { sh with hashed := (sh.hashed.filter (·.1 != name)) ++ [(name, p)] }
      | _ =>
        complain (name ++ ": not found")
        status := 1
    setStatus status

/-- The descriptor a path of `/dev/fd` (or `/dev/stdin`, `/dev/stdout`, `/dev/stderr`) stands
for. -/
def descriptorPath? (t : String) : Option Nat :=
  if t == "/dev/stdin" then some 0
  else if t == "/dev/stdout" then some 1
  else if t == "/dev/stderr" then some 2
  else
    let tail := if t.startsWith "/dev/fd/" then some (t.drop 8).toString
      else if t.startsWith "/proc/self/fd/" then some (t.drop 14).toString
      else none
    tail.bind String.toNat?

/-- Why a file could not be opened for reading, as the shell says it. -/
def openMessage (e : OsError) : String :=
  if e == .notFound || e == .notDir then "No such file" else e.description

/-- Why a file could not be made, as the shell says it. -/
def createMessage (e : OsError) : String :=
  if e == .notFound || e == .notDir then "Directory nonexistent" else e.description

/-- Open the target of a file redirection on descriptor `fd`; `false` after a complaint. Under
`set -C`, `>` refuses to write over an existing regular file. A new file gets the mode `0666`
less the mask. -/
def openTarget (fd : Nat) (kind : RedirKind) (t : String) : Sh Bool := do
  let w ← get
  let input := kind == .input
  match descriptorPath? t with
  | some k =>
    match w.sh.fd? k with
    | some o =>
      modifyShell fun sh => sh.setFd fd o
      return true
    | none =>
      complain ((if input then "cannot open " else "cannot create ") ++ t ++ ": No such file")
      return false
  | none =>
  let fs := w.p.fs
  let attach (f : OpenFile) : Sh Bool := do
    let id ← openFile f
    modifyShell fun sh => sh.setFd fd (.opened id)
    return true
  let access : OpenFile → OpenFile := fun f =>
    { f with readable := kind == .readWrite, writable := true, append := kind == .append }
  if input then
    match fs.resolve w.sh.cwd t with
    | .ok q =>
      match fs.node? q with
      | some (.file _ _) => attach { path := some q }
      | some (.device _) =>
        modifyShell fun sh => sh.setFd fd .null
        return true
      | _ => attach {}
    | .error e =>
      complain ("cannot open " ++ t ++ ": " ++ openMessage e)
      return false
  else
    let made : Sh Bool := do
      match fs.createPath w.sh.cwd t with
      | .ok q =>
        modifyProc fun p => { p with fs := p.fs.put q (.file "" (0o666 - (0o666 &&& w.sh.umask))) }
        attach (access { path := some q })
      | .error e =>
        complain ("cannot create " ++ t ++ ": " ++ createMessage e)
        return false
    match fs.resolve w.sh.cwd t with
    | .ok q =>
      match fs.node? q with
      | some (.dir _) =>
        complain ("cannot create " ++ t ++ ": Is a directory")
        return false
      | some (.device d) =>
        modifyShell fun sh => sh.setFd fd (if d == .full && kind != .readWrite then .full else .null)
        return true
      | some (.file _ m) =>
        if kind == .output && w.sh.opt 'C' then
          complain ("cannot create " ++ t ++ ": File exists")
          return false
        if kind == .output || kind == .clobber then
          modifyProc fun p => { p with fs := p.fs.put q (.file "" m) }
        attach (access { path := some q })
      | some (.program _ m) =>
        if kind == .output || kind == .clobber then
          modifyProc fun p => { p with fs := p.fs.put q (.file "" m) }
        attach (access { path := some q })
      | _ => made
    | .error .notFound => made
    | .error e =>
      complain ("cannot create " ++ t ++ ": " ++ createMessage e)
      return false

/-- How a loop body ended. -/
inductive Flow where
  | next
  | stop
  | escape (s : Stop)
  deriving Inhabited

/-- What a loop does with the way its body stopped. -/
def loopFlow (e : Stop) : Flow :=
  match e with
  | .brk k => if k ≤ 1 then .stop else .escape (.brk (k - 1))
  | .cont k => if k ≤ 1 then .next else .escape (.cont (k - 1))
  | other => .escape other

/-- Report a command that was not found: `name: not found`, or in the bash dialect
`name: command not found` (`No such file or directory` for a path). -/
def notFound (cmd : String) : Sh Unit := do
  if (← getShell).bash then
    complain (cmd ++ (if cmd.contains '/' then ": No such file or directory" else ": command not found"))
  else complain (cmd ++ ": not found")

/-- The time after every signal still to come. -/
def horizonOf (p : Proc) : Nat := (p.incoming.map (·.1)).foldl max p.now + 1

-- The interpreter is one block of mutual definitions; elaborating it beside the whole of
-- Mathlib takes more than the default budget.
set_option maxHeartbeats 400000 in
mutual

/-- Expand the parts of a word into fields; with `split`, unquoted expansions are split. -/
def expandParts : Nat → Bool → List Part → Fields → Sh Fields
  | 0, _, _, _ => throw .exhausted
  | _ + 1, _, [], f => pure f
  | n + 1, split, p :: ps, f => do
    let f ← expandPart n split p f
    expandParts n split ps f

/-- Expand one part of a word. -/
def expandPart : Nat → Bool → Part → Fields → Sh Fields
  | 0, _, _, _ => throw .exhausted
  | n + 1, split, p, f => do
    let sh ← getShell
    let ifs := sh.ifs
    let addValue (f : Fields) (v : String) (q : Bool) : Fields :=
      if q then f.add v true else if split then f.addSplit v ifs else f.add v false
    match p with
    | .text s q => pure (if s.isEmpty && !q then f else f.add s q)
    | .param name op arg q =>
      let cur := paramValue? sh name
      let many := name == "@" || (name == "*" && !q)
      let missing := if many || name == "*" then sh.params.isEmpty
        else if op.startsWith ":" then (cur.getD "").isEmpty else cur.isNone
      let useArg := ((op == "-" || op == ":-") && missing) || ((op == "+" || op == ":+") && !missing)
      let dropped := (op == "+" || op == ":+") && missing
      let asParams := many && !useArg && !dropped && op != "#" && op != "##" && op != "%" && op != "%%"
      if useArg then
        let parts := looseParts (if q then .quotedArg else .arg) (arg.length + 1) [] arg.toList
        let f := if q then f.add "" true else f
        expandParts n split parts f
      else if dropped then pure (if q then f.add "" true else f)
      else if asParams then
        if op == "=" || op == ":=" then shError (name ++ ": bad variable name")
        else if q then
          pure (match sh.params with
            | [] => f
            | p1 :: rest => rest.foldl (fun f x => (f.close).add x true) (f.add p1 true))
        else if split then
          pure (sh.params.foldl (fun (acc : Fields × Bool) x =>
            let f := if !acc.2 && acc.1.started then acc.1.close else acc.1
            (f.addSplit x ifs, false)) (f, true)).1
        else pure (f.add (" ".intercalate sh.params) false)
      else
        let v ← paramText n name op arg q
        pure (addValue f v q)
    | .invalid raw q =>
      if sh.bash then
        match bashParam? raw with
        | some form =>
          let v ← bashParamText n form
          pure (addValue f v q)
        | none => shError ("$\x7b" ++ raw ++ "\x7d: bad substitution")
      else shError "Bad substitution"
    | .tilde user =>
      let fs := (← getProc).fs
      let home := if user.isEmpty then (sh.get? "HOME").getD ""
        else (userHome fs user).getD ""
      pure (if home.isEmpty then f.add ("~" ++ user) false else f.add home true)
    | .length name q =>
      match paramValue? sh name with
      | some v =>
        let count := if sh.bash && utf8Locale sh then ((Text.decode? v).getD v).length else v.length
        pure (addValue f (toString count) q)
      | none =>
        if sh.opt 'u' then shError (name ++ ": parameter not set")
        else pure (addValue f "0" q)
    | .arith src q =>
      let v ← arithText n src
      pure (addValue f v q)
    | .subst src q =>
      let v ← substText n src
      pure (addValue f v q)

/-- The value of `${name op arg}`. -/
def paramText : Nat → String → String → String → Bool → Sh String
  | 0, _, _, _, _ => throw .exhausted
  | n + 1, name, op, arg, q => do
    let sh ← getShell
    let cur := paramValue? sh name
    let missing := if op.startsWith ":" then (cur.getD "").isEmpty else cur.isNone
    match op with
    | "" =>
      match cur with
      | some v => pure v
      | none =>
        if sh.opt 'u' && name != "!" && name != "@" && name != "*" then
          shError (name ++ ": parameter not set")
        else pure ""
    | ":-" | "-" => if missing then argText n arg q else pure (cur.getD "")
    | ":=" | "=" =>
      if missing then
        let v ← argText n arg q
        if isName name then assignVar name v
        else shError (name ++ ": bad variable name")
        pure v
      else pure (cur.getD "")
    | ":+" | "+" => if missing then pure "" else argText n arg q
    | ":?" | "?" =>
      if missing then
        let msg ← if !arg.isEmpty then argText n arg q
          else pure (if op == ":?" then "parameter not set or null" else "parameter not set")
        shError (name ++ ": " ++ msg)
      else pure (cur.getD "")
    | "%" | "%%" =>
      let pat ← argPattern n arg
      pure (removeSuffix pat (cur.getD "") (op == "%%"))
    | _ =>
      let pat ← argPattern n arg
      pure (removePrefix pat (cur.getD "") (op == "##"))

/-- The value of a bash form of `$\x7b…\x7d`. In a UTF-8 locale a substring and a change of
case count characters, not bytes. -/
def bashParamText : Nat → BashParam → Sh String
  | 0, _ => throw .exhausted
  | n + 1, form => do
    let sh ← getShell
    let utf8 := utf8Locale sh
    let chars (v : String) : List Char := if utf8 then ((Text.decode? v).getD v).toList else v.toList
    let back (v : String) (cs : List Char) : String :=
      if utf8 && (Text.decode? v).isSome then Text.encode (String.ofList cs) else String.ofList cs
    match form with
    | .slice name off len =>
      let v := (paramValue? sh name).getD ""
      let o ← arithText n off
      let l ← match len with
        | some t => do
          let x ← arithText n t
          pure (some (x.toInt?.getD 0))
        | none => pure none
      match sliceChars (chars v) (o.toInt?.getD 0) l with
      | some cs => pure (back v cs)
      | none => shError ((len.getD "") ++ ": substring expression < 0")
    | .replace name mode pat text =>
      let v := (paramValue? sh name).getD ""
      let p ← argPattern n pat
      let t ← argText n text false
      pure (String.ofList (replaceMatches p t.toList mode v.toList))
    | .caseMap name upper all pat =>
      let v := (paramValue? sh name).getD ""
      let p ← argPattern n pat
      pure (back v (mapCase upper all p (chars v)))

/-- Expand the word after a parameter operator into text. -/
def argText : Nat → String → Bool → Sh String
  | 0, _, _ => throw .exhausted
  | n + 1, arg, q => do
    let parts := looseParts (if q then .quotedArg else .arg) (arg.length + 1) [] arg.toList
    let f ← expandParts n false parts {}
    pure (String.join (f.finish.map fieldText))

/-- Expand the word after a pattern operator into a pattern: inside double quotes too, its
own quotes alone make characters literal. -/
def argPattern : Nat → String → Sh (List PatItem)
  | 0, _ => throw .exhausted
  | n + 1, arg => do
    let parts := looseParts .arg (arg.length + 1) [] arg.toList
    let f ← expandParts n false parts {}
    let qs := f.finish.flatten
    pure (toPattern (qs.length + 1) qs)

/-- The value of `$((…))`. -/
def arithText : Nat → String → Sh String
  | 0, _ => throw .exhausted
  | n + 1, src => do
    spend (6 + src.length)
    let parts := looseParts .document (src.length + 1) [] src.toList
    let f ← expandParts n false parts {}
    let text := String.join (f.finish.map fieldText)
    let sh ← getShell
    match evalArith sh.bash (fun v => sh.get? v) text with
    | .ok (v, asg) =>
      for (k, x) in asg do assignVar k x
      pure (toString v)
    | .error (.malformed msg) => shError ("arithmetic expression: " ++ msg ++ ": \"" ++ text ++ "\"")
    | .error .divisionByZero => shError ("arithmetic expression: division by zero: \"" ++ text ++ "\"")
    | .error (.badNumber s) => shError ("Illegal number: " ++ s)
    | .error .fault => throw (.killed 8)

/-- The output of `$(…)`, without its trailing newlines. -/
def substText : Nat → String → Sh String
  | 0, _ => throw .exhausted
  | n + 1, src => do
    let w0 ← get
    modifyProc fun p => { p with captured := #[] }
    let child := (w0.sh.forSubshell).setFd 1 .capture
    let e ← foreground n true child (processBody n (runText n src))
    let bytes := (← getProc).captured
    modifyProc fun p => { p with captured := w0.p.captured }
    modifyShell fun sh => { sh with lastSubst := some e.status }
    pure (trimNewlines (Text.ofBytes (bytes.toList.filter (· != 0))))

/-- Expand a word into one text, without splitting. -/
def wordText : Nat → Word → Sh String
  | 0, _ => throw .exhausted
  | n + 1, w => do
    let f ← expandParts n false w {}
    pure (String.join (f.finish.map fieldText))

/-- Expand words into the fields of a command. -/
def expandArgv : Nat → List Word → Sh (List String)
  | 0, _ => throw .exhausted
  | _ + 1, [] => pure []
  | n + 1, w :: ws => do
    let f ← expandParts n true w {}
    let rest ← expandArgv n ws
    let world ← get
    let words := if world.sh.opt 'f' then f.finish.map fieldText
      else f.finish.flatMap (globField world.p.fs world.sh.cwd)
    pure (words ++ rest)

/-- Parse and run a text, one complete command at a time. -/
def runText : Nat → String → Sh Unit
  | 0, _ => throw .exhausted
  | n + 1, text => do
    -- Reading a text costs steps in proportion to its length.
    spend (20 + 4 * text.length)
    runLines n (text.length + 2) { cs := text.toList }

/-- Run the commands still to read from `lx`. A syntax error ends the shell with status 2. -/
def runLines : Nat → Nat → Lexer → Sh Unit
  | 0, _, _ => throw .exhausted
  | _ + 1, 0, _ => pure ()
  | n + 1, k + 1, lx0 => do
    let lx := { lx0 with aliases := (← getShell).aliases, aliasSeen := [] }
    match (parseLine (8 * (lx.cs.length + 2))).run lx with
    | .error e => do
      modifyShell fun sh => { sh with line := e.line }
      shError ("Syntax error: " ++ e.message)
    | .ok (none, _) => pure ()
    | .ok (some c, lx2) => do
      modifyShell fun sh => { sh with bodies := sh.bodies ++ lx2.bodies }
      exec n c
      runLines n k { lx2 with bodies := [] }

/-- Run a command. -/
def exec : Nat → Cmd → Sh Unit
  | 0, _ => throw .exhausted
  | n + 1, c => do
    match c with
    | .simple line assigns words redirs =>
      -- A command costs a step, three more for every two arguments, two for each assignment
      -- and four for each redirection.
      spend (max 1 (3 * words.length / 2 + 2 * assigns.length + 4 * redirs.length))
      execSimple n line assigns words redirs
      afterCommand n
    | .pipeline negate cmds =>
      pipelineRun n negate cmds
      afterCommand n
    | .andThen a b =>
      conditionally n a
      if (← getShell).status == 0 then exec n b
    | .orElse a b =>
      conditionally n a
      if (← getShell).status != 0 then exec n b
    | .seq a b =>
      exec n a
      exec n b
    | .background c => spawnJob c
    | .subshell c redirs =>
      withRedirs n redirs (do
        let e ← foreground n true (← getShell).forSubshell (processBody n (exec n c))
        setStatus e.status
        afterCommand n)
    | .group c redirs => withRedirs n redirs (exec n c)
    | .ifThen cond thenPart elsePart redirs =>
      withRedirs n redirs (do
        conditionally n cond
        if (← getShell).status == 0 then exec n thenPart
        else
          match elsePart with
          | some e => exec n e
          | none => setStatus 0)
    | .loop isUntil cond body redirs => withRedirs n redirs (loopRun n isUntil cond body 0)
    | .forIn name items body redirs =>
      withRedirs n redirs (do
        let vals ← match items with
          | some ws => expandArgv n ws
          | none => pure (← getShell).params
        forRun n name vals body 0)
    | .caseOf subject arms redirs =>
      withRedirs n redirs (do
        let s ← wordText n subject
        caseRun n s arms)
    | .function name body =>
      modifyShell fun sh => { sh with funcs := (sh.funcs.filter (·.1 != name)) ++ [(name, body)] }
      setStatus 0
    | .empty => pure ()

/-- Run the trap actions of pending signals, then stop if `set -e` calls for it. -/
def afterCommand : Nat → Sh Unit
  | 0 => throw .exhausted
  | n + 1 => do
    runPending n
    let sh ← getShell
    if sh.opt 'e' && !sh.inCondition && sh.status != 0 then throw (.exit sh.status)

/-- Run a command as a condition, which `set -e` does not stop at. -/
def conditionally : Nat → Cmd → Sh Unit
  | 0, _ => throw .exhausted
  | n + 1, c => do
    let old := (← getShell).inCondition
    modifyShell fun sh => { sh with inCondition := true }
    tryCatch (exec n c) (fun e => do
      modifyShell fun sh => { sh with inCondition := old }
      throw e)
    modifyShell fun sh => { sh with inCondition := old }

/-- Run `body` with redirections that are undone after it. -/
def withRedirs : Nat → List Redir → Sh Unit → Sh Unit
  | 0, _, _ => throw .exhausted
  | n + 1, redirs, body => do
    if redirs.isEmpty then body
    else
      let saved := (← getShell).fds
      if ← applyRedirs n redirs then
        tryCatch body (fun e => do
          modifyShell fun sh => { sh with fds := saved }
          throw e)
        modifyShell fun sh => { sh with fds := saved }
      else
        modifyShell fun sh => { sh with fds := saved }
        setStatus 2

/-- Apply redirections in order; `false` after the first that fails. -/
def applyRedirs : Nat → List Redir → Sh Bool
  | 0, _ => throw .exhausted
  | _ + 1, [] => pure true
  | n + 1, r :: rs => do
    if ← applyRedir n r then applyRedirs n rs else pure false

/-- Apply one redirection. -/
def applyRedir : Nat → Redir → Sh Bool
  | 0, _ => throw .exhausted
  | n + 1, r => do
    let input := match r.kind with
      | .input => true
      | .dupInput => true
      | .readWrite => true
      | .document _ => true
      | _ => false
    let fd := r.fd.getD (if input then 0 else 1)
    match r.kind with
    | .document quoted =>
      let body := ((← getShell).bodies.lookup r.body).getD ""
      let text ← do
        if quoted then pure body
        else
          let parts := looseParts .document (body.length + 1) [] body.toList
          let f ← expandParts n false parts {}
          pure (String.join (f.finish.map fieldText))
      let id ← openBytes (Text.toBytes text)
      modifyShell fun sh => sh.setFd fd (.opened id)
      pure true
    | .dupInput | .dupOutput =>
      let t ← wordText n r.target
      if t == "-" then
        modifyShell fun sh => sh.closeFd fd
        pure true
      else
        match t.toNat? with
        | some k =>
          match (← getShell).fd? k with
          | some o =>
            modifyShell fun sh => sh.setFd fd o
            pure true
          | none =>
            complain (t ++ ": Bad file descriptor")
            pure false
        | none =>
          complain "Syntax error: Bad fd number"
          pure false
    | kind =>
      let t ← wordText n r.target
      openTarget fd kind t

/-- Run a simple command. -/
def execSimple : Nat → Nat → List (String × Word) → List Word → List Redir → Sh Unit
  | 0, _, _, _, _ => throw .exhausted
  | n + 1, line, assigns, words, redirs => do
    modifyShell fun sh => { sh with line := line, lastSubst := none }
    let argv ← expandArgv n words
    let vals ← assigns.mapM fun (k, w) => do
      let v ← wordText n w
      pure (k, v)
    -- Long texts cost a step for every 8 characters past the first 64.
    spend (((argv.map String.length).foldl (· + ·) 0 + (vals.map (·.2.length)).foldl (· + ·) 0 - 64) / 8)
    let sh ← getShell
    if sh.opt 'x' then
      let items := (vals.map fun (k, v) => k ++ "=" ++ v) ++ argv
      err ((sh.get? "PS4").getD "" ++ " ".intercalate items ++ "\n")
    match argv with
    | [] =>
      for (k, v) in vals do assignVar k v
      let saved := (← getShell).fds
      let ok ← applyRedirs n redirs
      modifyShell fun sh => { sh with fds := saved }
      let st := ((← getShell).lastSubst).getD 0
      setStatus (if ok then st else 2)
    | cmd :: args => runCommand n cmd args vals redirs

/-- Run a command by name, with assignments and redirections. -/
def runCommand : Nat → String → List String → List (String × String) → List Redir → Sh Unit
  | 0, _, _, _, _ => throw .exhausted
  | n + 1, cmd, args, vals, redirs => do
    let sh ← getShell
    if cmd == "exec" && args.isEmpty then
      for (k, v) in vals do assignVar k v
      if ← applyRedirs n redirs then setStatus 0 else throw .error
    else if specialBuiltins.contains cmd then
      for (k, v) in vals do assignVar k v
      let saved := sh.fds
      if ← applyRedirs n redirs then
        tryCatch (builtin n true cmd args) (fun e => do
          modifyShell fun sh => { sh with fds := saved }
          throw e)
        modifyShell fun sh => { sh with fds := saved }
      else
        modifyShell fun sh => { sh with fds := saved }
        throw .error
    else
      match sh.funcs.lookup cmd with
      | some body =>
        spend 2
        temporarily n vals (withRedirs n redirs (callFunction n body args))
      | none =>
        if regularBuiltins.contains cmd then
          temporarily n vals (withRedirs n redirs (builtin n false cmd args))
        else withRedirs n redirs (external n cmd args vals)

/-- Run a builtin under its name: its messages carry the name, an error in a regular builtin
only fails it with status 2, and a failed write to standard output is reported after it. -/
def builtin : Nat → Bool → String → List String → Sh Unit
  | 0, _, _, _ => throw .exhausted
  | n + 1, isSpecial, cmd, args => do
    let outer := (← getShell).commandName
    modifyShell fun sh => { sh with commandName := some cmd, outputFailed := false }
    let restore : Sh Unit := modifyShell fun sh => { sh with commandName := outer }
    tryCatch (if isSpecial then special n cmd args else regular n cmd args) (fun e => do
      match e with
      | .error =>
        if isSpecial then
          restore
          throw e
        else setStatus 2
      | other =>
        restore
        throw other)
    if (← getShell).outputFailed then
      complain (cmd ++ ": I/O error")
      modifyShell fun sh => { sh with status := sh.status ||| 1, outputFailed := false }
    restore

/-- Run `body` with variables set for it alone. -/
def temporarily : Nat → List (String × String) → Sh Unit → Sh Unit
  | 0, _, _ => throw .exhausted
  | _ + 1, vals, body => do
    if vals.isEmpty then body
    else
      let old := (← getShell).vars
      for (k, v) in vals do modifyShell fun sh => sh.set k v
      let restore : Sh Unit := modifyShell fun sh =>
        { sh with vars := vals.foldl (fun vs (k, _) =>
            match old.lookup k with
            | some x => vs.map fun (k2, y) => if k2 == k then (k2, x) else (k2, y)
            | none => vs.filter (·.1 != k)) sh.vars }
      tryCatch body (fun e => do
        restore
        throw e)
      restore

/-- A special builtin. -/
def special : Nat → String → List String → Sh Unit
  | 0, _, _ => throw .exhausted
  | n + 1, cmd, args => do
    let sh ← getShell
    match cmd with
    | "exit" =>
      match args with
      | [] => throw (.exit sh.status)
      | a :: _ => throw (.exit ((← countArg a) % 256))
    | "return" =>
      match args with
      | [] => throw (.ret sh.status)
      | a :: _ => throw (.ret (← countArg a))
    | "break" | "continue" =>
      let k ← match args with
        | a :: _ => countArg a
        | [] => pure 1
      if k == 0 then shError "Illegal number: 0"
      if sh.loops > 0 then throw (if cmd == "break" then .brk (min k sh.loops) else .cont (min k sh.loops))
      else setStatus 0
    | "eval" =>
      let text := " ".intercalate args
      if text.all fun c => c == ' ' || c == '\t' || c == '\n' then setStatus 0
      else
        setStatus 0
        runText n text
    | "." =>
      match args with
      | [] => setStatus 0
      | f :: _ =>
        let w ← get
        let path := if f.contains '/' then some f
          else match searchPath w.p.fs w.sh.cwd ((w.sh.get? "PATH").getD defaultPath) f with
            | .path p => some p
            | .denied p => some p
            | .missing => none
        match path with
        | none => shError (f ++ ": not found")
        | some path =>
          match w.p.fs.stat w.sh.cwd path with
          | .ok (.file content _) =>
            modifyShell fun sh => { sh with commandName := some path }
            setStatus 0
            runText n content
          | _ => shError ("cannot open " ++ f ++ ": No such file")
    | "exec" => execReplace n args
    | "export" => exportBuiltin false args
    | "readonly" => exportBuiltin true args
    | "set" => setBuiltin args
    | "shift" => shiftBuiltin args
    | "times" =>
      out "0m0.000000s 0m0.000000s\n0m0.000000s 0m0.000000s\n"
      setStatus 0
    | "trap" => trapBuiltin args
    | "unset" => unsetBuiltin args
    | "local" => localBuiltin args
    | _ => setStatus 0

/-- Whether a name is a builtin, a function or a program, as `command -v` writes it. -/
def describeCommand (verbose : Bool) (a : String) : Sh Bool := do
  let w ← get
  if verbose then
    if (w.sh.aliases.lookup a).isSome then
      out (a ++ " is an alias for " ++ ((w.sh.aliases.lookup a).getD "") ++ "\n")
      return true
    if specialBuiltins.contains a then
      out (a ++ " is a special shell builtin\n")
      return true
    if (w.sh.funcs.lookup a).isSome then
      out (a ++ " is a shell function\n")
      return true
    if regularBuiltins.contains a then
      out (a ++ " is a shell builtin\n")
      return true
    if reservedWords.contains a then
      out (a ++ " is a shell keyword\n")
      return true
  else
    if let some v := w.sh.aliases.lookup a then
      out ("alias " ++ a ++ "=" ++ singleQuote v ++ "\n")
      return true
    if specialBuiltins.contains a || regularBuiltins.contains a || (w.sh.funcs.lookup a).isSome ||
        reservedWords.contains a then
      out (a ++ "\n")
      return true
  let found := if a.contains '/' then
      (match launchFile w.p.fs w.sh.cwd a with
        | .ok _ => Found.path a
        | .error .execFormat => Found.path a
        | _ => Found.missing)
    else searchPath w.p.fs w.sh.cwd ((w.sh.get? "PATH").getD defaultPath) a
  match found with
  | .path p =>
    out (if verbose then a ++ " is " ++ p ++ "\n" else p ++ "\n")
    return true
  | _ =>
    if verbose then out (a ++ ": not found\n")
    return false

/-- A regular builtin. -/
def regular : Nat → String → List String → Sh Unit
  | 0, _, _ => throw .exhausted
  | n + 1, cmd, args => do
    match cmd with
    | "echo" =>
      if (← getShell).bash then
        out (echoText (utf8Locale (← getShell)) args)
        setStatus 0
      else echoBuiltin args
    | "printf" => printfBuiltin args
    | "test" => testBuiltin cmd args
    | "[" => testBuiltin cmd args
    | "pwd" => pwdBuiltin args
    | "cd" => cdBuiltin args
    | "kill" => killBuiltin args
    | "wait" => waitBuiltin n args
    | "read" => readBuiltin args
    | "true" => setStatus 0
    | "false" => setStatus 1
    | "ulimit" => ulimitBuiltin args
    | "umask" => umaskBuiltin args
    | "alias" => aliasBuiltin args
    | "unalias" => unaliasBuiltin args
    | "getopts" => getoptsBuiltin args
    | "type" =>
      let mut status := 0
      for a in args do
        if !(← describeCommand true a) then status := 127
      setStatus status
    | "command" =>
      let (opts, rest) ← takeOptions "pvV" args
      if hasOpt opts 'v' || hasOpt opts 'V' then
        let mut status := 0
        for a in rest do
          if !(← describeCommand (hasOpt opts 'V') a) then status := 127
        setStatus status
      else
        match rest with
        | c :: more =>
          if regularBuiltins.contains c || specialBuiltins.contains c then
            builtin n false c more
          else external n c more []
        | [] => setStatus 0
    | "hash" => hashBuiltin args
    | "jobs" => jobsBuiltin n args
    | _ => setStatus 0

/-- Call a function with arguments; the variables it made local get their values back when
it returns. -/
def callFunction : Nat → Cmd → List String → Sh Unit
  | 0, _, _ => throw .exhausted
  | n + 1, body, args => do
    let saved := (← getShell).params
    modifyShell fun sh => { sh with params := args, frames := [] :: sh.frames }
    let finish : Sh Unit := modifyShell fun sh =>
      match sh.frames with
      | frame :: outer =>
        let vars := frame.foldl (fun vs (k, old) =>
          match old with
          | some x =>
            if vs.any (·.1 == k) then vs.map fun (k2, y) => if k2 == k then (k2, x) else (k2, y)
            else vs ++ [(k, x)]
          | none => vs.filter (·.1 != k)) sh.vars
        { sh with params := saved, frames := outer, vars := vars }
      | [] => { sh with params := saved }
    tryCatch (exec n body) (fun e => do
      match e with
      | .ret c => setStatus c
      | other =>
        finish
        throw other)
    finish

/-- The environment of a program started by `env`: the options `-i` (or `-`) and `-u name`,
then `name=value` words; the command and its arguments follow. -/
def envArguments (env : List (String × String)) : Nat → List String →
    Except (Char × Bool) (List (String × String) × List String)
  | 0, ws => .ok (env, ws)
  | _ + 1, [] => .ok (env, [])
  | k + 1, w :: ws =>
    if w == "-" then envArguments [] k ws
    else if w == "--" then envAssignments env ws
    else if w.startsWith "-" then
      match (getopt "+C:iS:u:v0" false [] 1 [w]).mapError OptionError.short with
      | .ok (os, _) =>
        envArguments (os.foldl (fun e (c, _) => if c == 'i' then [] else e) env) k ws
      | .error (c, true) =>
        match ws with
        | v :: more =>
          match (getopt "+C:iS:u:v0" false [] 1 [w, v]).mapError OptionError.short with
          | .ok (os, _) =>
            let e := os.foldl (fun e (c, x) =>
              if c == 'i' then [] else if c == 'u' then e.filter (·.1 != x) else e) env
            envArguments e k more
          | .error err => .error err
        | [] => .error (c, true)
      | .error err => .error err
    else envAssignments env (w :: ws)
where
  /-- The `name=value` words before the command. -/
  envAssignments (env : List (String × String)) (ws : List String) :
      Except (Char × Bool) (List (String × String) × List String) :=
    let assigns := ws.takeWhile fun a => a.contains '='
    let pairs := assigns.map fun a => match a.splitOn "=" with
      | k :: vs => (k, "=".intercalate vs)
      | [] => (a, "")
    let env := pairs.foldl (fun e (k, v) =>
      if e.any (·.1 == k) then e.map fun (k2, x) => if k2 == k then (k2, v) else (k2, x)
      else e ++ [(k, v)]) env
    .ok (env, ws.drop assigns.length)

/-- Run a program found by name, as a foreground child. -/
def external : Nat → String → List String → List (String × String) → Sh Unit
  | 0, _, _, _ => throw .exhausted
  | n + 1, cmd, args, vals => do
    let w ← get
    let found := if cmd.contains '/' then Found.path cmd
      else searchPath w.p.fs w.sh.cwd ((w.sh.get? "PATH").getD defaultPath) cmd
    match found with
    | .missing =>
      notFound cmd
      setStatus 127
    | .denied _ =>
      complain (cmd ++ ": Permission denied")
      setStatus 126
    | .path p =>
      if !cmd.contains '/' && !w.sh.hashed.any (·.1 == cmd) then
        modifyShell fun sh => { sh with hashed := sh.hashed ++ [(cmd, p)] }
      let env := envFor w.sh vals
      let child := freshShell w.sh 0 env
      match launchFile w.p.fs w.sh.cwd p with
      | .ok l =>
        let e ← foreground n true child (launch n l (cmd :: args) env)
        setStatus e.status
      | .error .execFormat =>
        let e ← foreground n true child (scriptFile n p (cmd :: args) env)
        setStatus e.status
      | .error .notFound =>
        notFound cmd
        setStatus 127
      | .error _ =>
        complain (cmd ++ ": Permission denied")
        setStatus 126

/-- `exec` with a command: the process becomes the program. -/
def execReplace : Nat → List String → Sh Unit
  | 0, _ => throw .exhausted
  | n + 1, args => do
    match args with
    | [] => setStatus 0
    | cmd :: rest =>
      let w ← get
      let found := if cmd.contains '/' then Found.path cmd
        else searchPath w.p.fs w.sh.cwd ((w.sh.get? "PATH").getD defaultPath) cmd
      match found with
      | .missing =>
        notFound cmd
        throw (.exit 127)
      | .denied _ =>
        complain (cmd ++ ": Permission denied")
        throw (.exit 126)
      | .path p =>
        let env := envFor w.sh []
        match launchFile w.p.fs w.sh.cwd p with
        | .ok l =>
          set { w with sh := freshShell w.sh w.sh.pid env }
          launch n l (cmd :: rest) env
        | .error .execFormat =>
          set { w with sh := freshShell w.sh w.sh.pid env }
          scriptFile n p (cmd :: rest) env
        | .error .notFound =>
          notFound cmd
          throw (.exit 127)
        | .error _ =>
          complain (cmd ++ ": Permission denied")
          throw (.exit 126)

/-- Run a started program to its end, inside its own process. -/
def launch : Nat → Launch → List String → List (String × String) → Sh Unit
  | 0, _, _, _ => throw .exhausted
  | n + 1, l, argv, env => do
    -- A program reads its arguments: two steps for each character.
    spend (10 + 2 * (argv.map String.length).foldl (· + ·) 0)
    match l with
    | .host name => hostRun n name argv env
    | .script path => scriptFile n path argv env
    | .interpreter interp arg path =>
      let w ← get
      match programAt? w.p.fs w.sh.cwd interp with
      | some name => hostRun n name ([interp] ++ arg.toList ++ [path] ++ argv.drop 1) env
      | none => throw (.exit 126)

/-- Run a file without `#!` as a shell script, as the shell does when the kernel refuses it. -/
def scriptFile : Nat → String → List String → List (String × String) → Sh Unit
  | 0, _, _, _ => throw .exhausted
  | n + 1, path, argv, env => do
    let w ← get
    match w.p.fs.stat w.sh.cwd path with
    | .ok (.file content _) =>
      set { w with sh := { freshShell w.sh w.p.self env with arg0 := argv.headD path, params := argv.drop 1 } }
      processBody n (runText n content)
    | _ => throw (.exit 127)

/-- Become the program a command names, with an environment, as `env` and `exec` do. -/
def replaceWith : Nat → String → String → List String → List (String × String) → Sh Unit
  | 0, _, _, _, _ => throw .exhausted
  | n + 1, name, cmd, args, env => do
    let w ← get
    let found := if cmd.contains '/' then Found.path cmd
      else searchPath w.p.fs w.sh.cwd ((env.lookup "PATH").getD "/bin:/usr/bin") cmd
    let fail (code : Nat) (e : OsError) : Sh Unit := do
      say name ((← quoted cmd) ++ ": " ++ e.description)
      exitWith code
    match found with
    | .missing => fail 127 .notFound
    | .denied _ => fail 126 .permissionDenied
    | .path p =>
      let fresh := freshShell w.sh w.sh.pid env
      match launchFile w.p.fs w.sh.cwd p with
      | .ok l =>
        set { w with sh := fresh }
        launch n l (cmd :: args) env
      | .error .execFormat =>
        set { w with sh := fresh }
        scriptFile n p (cmd :: args) env
      | .error .notFound => fail 127 .notFound
      | .error e => fail 126 e

/-- Run the program a command names as a child of a program that is not a shell, with an
environment and standard input: how the child ended, or the status (127 or 126) and the error
when it could not be started. -/
def spawnProgram : Nat → String → List String → List (String × String) → Option Outlet →
    Sh (Except (Nat × OsError) Exit)
  | 0, _, _, _, _ => throw .exhausted
  | n + 1, cmd, args, env, input => do
    let w ← get
    let found := if cmd.contains '/' then Found.path cmd
      else searchPath w.p.fs w.sh.cwd ((env.lookup "PATH").getD "/bin:/usr/bin") cmd
    let child := freshShell w.sh 0 env
    let child := match input with
      | some o => child.setFd 0 o
      | none => child
    match found with
    | .missing => pure (.error (127, .notFound))
    | .denied _ => pure (.error (126, .permissionDenied))
    | .path p =>
      match launchFile w.p.fs w.sh.cwd p with
      | .ok l => pure (.ok (← foreground n false child (launch n l (cmd :: args) env)))
      | .error .execFormat => pure (.ok (← foreground n false child (scriptFile n p (cmd :: args) env)))
      | .error .notFound => pure (.error (127, .notFound))
      | .error e => pure (.error (126, e))

/-- Run an installed program. -/
def hostRun : Nat → String → List String → List (String × String) → Sh Unit
  | 0, _, _, _ => throw .exhausted
  | n + 1, name, argv, env => do
    let args := argv.drop 1
    let shown := argv.headD name
    match name with
    | "sh" | "dash" => shellProgram n false argv env
    | "bash" => shellProgram n true argv env
    | "sleep" => sleepProgram shown args
    | "cat" => catProgram shown args
    | "echo" => echoProgram args
    | "printf" => printfProgram shown args
    | "true" => exitWith 0
    | "false" => exitWith 1
    | "kill" =>
      killBuiltin args
      exitWith (← getShell).status
    | "env" =>
      match envArguments env (args.length + 1) args with
      | .error (c, missing) =>
        let q ← quoted (String.singleton c)
        if missing then usageError shown ("option requires an argument -- " ++ q)
        else usageError shown ("invalid option -- " ++ q)
      | .ok (env2, rest) =>
        match rest with
        | [] =>
          out (String.join (env2.map fun (k, v) => k ++ "=" ++ v ++ "\n"))
          exitWith 0
        | cmd :: more => replaceWith n shown cmd more env2
    | "printenv" => printenvProgram shown args
    | "touch" => touchProgram shown args
    | "mkdir" => mkdirProgram shown args
    | "rm" => rmProgram shown args
    | "tee" => teeProgram shown args
    | "pwd" => pwdProgram shown args
    | "test" => conditionProgram false shown args
    | "[" => conditionProgram true shown args
    | "head" => headTailProgram true shown args
    | "tail" => headTailProgram false shown args
    | "wc" => wcProgram shown args
    | "cut" => cutProgram shown args
    | "sort" => sortProgram shown args
    | "uniq" => uniqProgram shown args
    | "rev" => revProgram shown args
    | "od" => odProgram shown args
    | "tr" => trProgram shown args
    | "expr" => exprProgram shown args
    | "sed" => sedProgram shown args
    | "awk" | "mawk" =>
      let run (cmd : String) (input : Option (List UInt8)) : Sh Nat := do
        let w ← get
        let child := { freshShell w.sh w.p.self env with cwd := w.sh.cwd }
        let child ← match input with
          | some bs => do pure (child.setFd 0 (.opened (← openBytes bs)))
          | none => pure child
        let e ← foreground n true child (processBody n (runText n cmd))
        pure e.status
      let capture (cmd : String) : Sh String := do
        let w ← get
        modifyProc fun p => { p with captured := #[] }
        let child := { freshShell w.sh w.p.self env with cwd := w.sh.cwd }
        let _ ← foreground n true (child.setFd 1 .capture) (processBody n (runText n cmd))
        let bytes := (← getProc).captured
        modifyProc fun p => { p with captured := w.p.captured }
        pure (Text.ofBytes bytes.toList)
      awkProgram shown args run capture
    | "id" => idProgram shown args
    | "whoami" => whoamiProgram shown args
    | "seq" => seqProgram shown args
    | "yes" => yesProgram shown args
    | "tac" => tacProgram shown args
    | "nl" => nlProgram shown args
    | "paste" => pasteProgram shown args
    | "comm" => commProgram shown args
    | "expand" => expandProgram shown args
    | "unexpand" => unexpandProgram shown args
    | "fold" => foldProgram shown args
    | "md5sum" | "sha1sum" | "sha224sum" | "sha256sum" | "sha384sum" | "sha512sum" =>
      digestProgram shown args
    | "cksum" => cksumProgram shown args
    | "factor" => factorProgram shown args
    | "sum" => sumProgram shown args
    | "base64" => encodeProgram .base64 shown args
    | "base32" => encodeProgram .base32 shown args
    | "basename" => basenameProgram shown args
    | "dirname" => dirnameProgram shown args
    | "uname" => unameProgram shown args
    | "nproc" => nprocProgram shown args
    | "ls" => lsProgram shown args
    | "readlink" => readlinkProgram shown args
    | "realpath" => realpathProgram shown args
    | "stat" => statProgram shown args
    | "chmod" => chmodProgram shown args
    | "ln" => lnProgram shown args
    | "cp" => cpProgram shown args
    | "mv" => mvProgram shown args
    | "rmdir" => rmdirProgram shown args
    | "unlink" => unlinkProgram shown args
    | "truncate" => truncateProgram shown args
    | "dd" => ddProgram shown args
    | "timeout" => timeoutProgram shown args fun c a i => spawnProgram n c a env i
    | "xargs" => xargsProgram shown args fun c a i => spawnProgram n c a env i
    | "find" => findProgram shown args fun c a i => spawnProgram n c a env i
    | "grep" => grepProgram shown args
    | "date" => dateProgram shown args
    | _ => exitWith 0

/-- The shell as a program: `sh -c text [name args…]`, `sh file [args…]`, or commands from
standard input; option letters before them turn options on. -/
def shellProgram : Nat → Bool → List String → List (String × String) → Sh Unit
  | 0, _, _, _ => throw .exhausted
  | n + 1, bash, argv, env => do
    let name := argv.headD "sh"
    let args := argv.drop 1
    let opts := args.takeWhile fun a => (a.startsWith "-" || a.startsWith "+") && a.length > 1 && a != "--"
    let rest := args.drop opts.length
    let rest := if rest.head? == some "--" then rest.drop 1 else rest
    let flags := String.join (opts.filter (·.startsWith "-") |>.map fun o => (o.drop 1).toString)
    let w ← get
    let base := { freshShell w.sh w.p.self env with cwd := w.sh.cwd, arg0 := name, bash }
    let base := flags.foldl (fun sh c => if c == 'c' || c == 's' then sh else sh.setOpt c true) base
    if flags.contains 'c' then
      match rest with
      | text :: more =>
        set { w with sh := { base with arg0 := more.headD name, params := more.drop 1 } }
        processBody n (runText n text)
      | [] =>
        let _ ← writeFd 2 (Text.toBytes (name ++ ": 0: -c requires an argument\n"))
        throw (.exit 2)
    else
      match rest with
      | file :: more =>
        match w.p.fs.stat w.sh.cwd file with
        | .ok (.file content _) =>
          set { w with sh := { base with arg0 := file, params := more } }
          processBody n (runText n content)
        | _ =>
          let _ ← writeFd 2 (Text.toBytes (name ++ ": 0: cannot open " ++ file ++ ": No such file\n"))
          throw (.exit 2)
      | [] =>
        match ← unread 0 with
        | some data =>
          consume 0 data.length
          markDrained 0
          modifyShell fun _ => { base with arg0 := name }
          processBody n (runText n (Text.ofBytes data))
        | none => throw (.exit 0)

/-- Run the body of a shell process: at its end, or at `exit`, the `EXIT` trap runs and the
process ends with the status. -/
def processBody : Nat → Sh Unit → Sh Unit
  | 0, _ => throw .exhausted
  | n + 1, body => do
    let code ← tryCatch (do body; pure (← getShell).status) (fun e => do
      match e with
      | .exit c => pure c
      | .ret c => pure c
      | .brk _ => pure (← getShell).status
      | .cont _ => pure (← getShell).status
      | .error => pure (← getShell).status
      | other => throw other)
    match (← getShell).trap? 0 with
    | some (.run action) =>
      modifyShell fun sh => { sh with traps := sh.traps.filter (·.1 != 0), status := code }
      runText n action
      throw (.exit code)
    | _ => throw (.exit code)

/-- Run `body` as a foreground child process with the shell state `child`, then wait for it:
its status, with the signal that ended it reported on standard error when `report` (as a shell
does, and a program that is not a shell does not). -/
def foreground : Nat → Bool → Shell → Sh Unit → Sh Exit
  | 0, _, _, _ => throw .exhausted
  | _ + 1, report, child, body => do
    -- Starting a process costs as much as many commands.
    spend 55
    let w0 ← get
    let pid := w0.p.nextPid + 1
    let child := if child.pid == 0 then { child with pid } else child
    let p1 : Proc := { w0.p with
      self := pid
      nextPid := pid
      incoming := w0.p.group.filter (·.1 ≥ w0.p.now)
      pending := []
      jobs := []
      outbound := [] }
    set ({ sh := child, p := p1 } : World)
    let r : Option Exit ← tryCatch (do body; pure (some (Exit.code (← getShell).status))) (fun e => do
      match e with
      | .exit c => pure (some (.code c))
      | .killed s => pure (some (.signal s))
      | .ret c => pure (some (.code c))
      | .exhausted => pure none
      | _ => pure (some (.code (← getShell).status)))
    let w1 ← get
    let toParent := w1.p.outbound.filter (·.1 == w0.p.self)
    let incoming := toParent.foldl (fun acc (_, t, s) => insertSignal (t, s) acc) w0.p.incoming
    let p2 : Proc := { w1.p with
      self := w0.p.self
      incoming := incoming
      pending := w0.p.pending
      jobs := w0.p.jobs ++ w1.p.jobs.map (fun j => { j with orphan := true })
      outbound := w0.p.outbound ++ w1.p.outbound.filter (·.1 != w0.p.self)
      now := w0.p.now }
    set ({ sh := w0.sh, p := p2 } : World)
    match r with
    | some e =>
      let _ ← blockUntil w1.p.now false
      match e with
      | .signal s =>
        if report && s != 2 && s != 13 then
          let _ ← writeFd 2 (Text.toBytes (signalText s ++ "\n"))
      | .code _ => pure ()
      pure e
    | none =>
      let _ ← blockUntil (horizonOf (← getProc)) false
      throw .exhausted

/-- Run a background job from its start, with the group's signals `group`: its writes (with
those of the jobs it started), its end and its status. The caller's state is left as it was. -/
def simulateJob : Nat → Job → List (Nat × Nat) → Sh JobRun
  | 0, _, _ => throw .exhausted
  | n + 1, job, group => do
    let w0 ← get
    let incoming := job.kills.foldl (fun acc k => insertSignal k acc) (group.filter (·.1 ≥ job.start))
    let p1 : Proc := { w0.p with
      now := job.start
      self := job.pid
      incoming := incoming
      group := group
      pending := []
      log := #[]
      captured := #[]
      jobs := []
      outbound := [] }
    set ({ sh := job.shell, p := p1 } : World)
    let r : Option Exit ← tryCatch (do processBody n (exec n job.cmd); pure (some (Exit.code 0))) (fun e => do
      match e with
      | .exit c => pure (some (.code c))
      | .killed s => pure (some (.signal s))
      | .exhausted => pure none
      | _ => pure (some (.code 0)))
    let w1 ← get
    let nested ← w1.p.jobs.mapM fun j => simulateJob n j group
    set ({ w0 with p := { w0.p with nextPid := max w0.p.nextPid w1.p.nextPid } } : World)
    pure { log := nested.foldl (fun acc x => acc ++ x.log) w1.p.log,
           finish := r.map fun _ => w1.p.now, exit := r.getD (.code 0) }

/-- The job an operand of `wait` or `kill` names: a process id, or `%n` (the `n`th job),
`%%` or `%+` (the last job) or `%-` (the one before it). -/
def jobNamed? (jobs : List Job) (t : String) : Option Job :=
  if t.startsWith "%" then
    let rest := (t.drop 1).toString
    if rest == "%" || rest == "+" || rest.isEmpty then jobs.getLast?
    else if rest == "-" then (jobs.dropLast).getLast?
    else
      match rest.toNat? with
      | some k => if k == 0 then none else jobs[k - 1]?
      | none => none
  else jobs.find? fun j => toString j.pid == t

/-- `wait`. -/
def waitBuiltin : Nat → List String → Sh Unit
  | 0, _ => throw .exhausted
  | n + 1, args => do
    let p ← getProc
    if args.isEmpty then
      let r ← waitJobs n (p.jobs.filter fun j => !j.reaped && !j.orphan) 0
      if r.isSome then setStatus 0
    else
      let targets := args.filterMap (jobNamed? p.jobs)
      if targets.isEmpty then setStatus 127
      else
        match ← waitJobs n targets 0 with
        | some st => setStatus st
        | none => pure ()

/-- How `jobs` describes a job that has ended. -/
def endedText : Exit → String
  | .code 0 => "Done"
  | .code c => "Done(" ++ toString c ++ ")"
  | .signal s => signalText s

/-- `jobs`: the jobs not yet waited for, the last first, each as `[n] + state` padded to 33
columns (`+` marks the last job, `-` the one before); a job shown as ended is forgotten. -/
def jobsBuiltin : Nat → List String → Sh Unit
  | 0, _ => throw .exhausted
  | n + 1, _ => do
    let p ← getProc
    let numbered := p.jobs.zip (List.range p.jobs.length)
    let live := numbered.filter fun (j, _) => !j.reaped && !j.orphan
    let count := live.length
    for ((j, i), k) in live.reverse.zip (List.range count) do
      let r ← simulateJob n j p.group
      let ended : Bool := match r.finish with
        | some t => decide (t ≤ p.now)
        | none => false
      let mark := if k == 0 then "+" else if k == 1 then "-" else " "
      let head := "[" ++ toString (i + 1) ++ "] " ++ mark ++ " " ++
        (if ended then endedText r.exit else "Running")
      out (head ++ fill (max (33 - head.length) 1) ' ' ++ "\n")
      if ended then
        modifyProc fun p => { p with jobs := p.jobs.map fun x =>
          if x.pid == j.pid then { x with reaped := true } else x }
    setStatus 0

/-- Wait for jobs in order: the status of the last, or `none` when a trapped signal cut the
wait short (the status is then set already). -/
def waitJobs : Nat → List Job → Nat → Sh (Option Nat)
  | 0, _, _ => throw .exhausted
  | _ + 1, [], last => pure (some last)
  | n + 1, j :: rest, _ => do
    let p ← getProc
    let r ← simulateJob n j p.group
    let deadline := r.finish.getD (horizonOf p)
    match ← blockUntil deadline true with
    | some sig =>
      setStatus (128 + sig)
      pure none
    | none =>
      if r.finish.isNone then throw .exhausted
      modifyProc fun p => { p with jobs := p.jobs.map fun x => if x.pid == j.pid then { x with reaped := true } else x }
      waitJobs n rest r.exit.status

/-- Run the actions of pending trapped signals, keeping `$?`. -/
def runPending : Nat → Sh Unit
  | 0 => throw .exhausted
  | n + 1 => do
    match (← getProc).pending with
    | [] => pure ()
    | sig :: rest =>
      modifyProc fun p => { p with pending := rest }
      match (← getShell).trap? sig with
      | some (.run action) =>
        let saved := (← getShell).status
        runText n action
        setStatus saved
      | _ => pure ()
      runPending n

/-- Run a `while` (or `until`) loop, its status starting as `last`. Each round costs a step,
so the rounds end with the budget at the latest. -/
def loopRun : Nat → Bool → Cmd → Cmd → Nat → Sh Unit
  | 0, _, _, _, _ => throw .exhausted
  | n + 1, isUntil, cond, body, last => do
    let mut status := last
    for _ in [0:(← getProc).budget + 1] do
      spend 1
      conditionally n cond
      let st := (← getShell).status
      if (st == 0) == isUntil then
        setStatus status
        return
      modifyShell fun sh => { sh with loops := sh.loops + 1 }
      let flow ← tryCatch (do exec n body; pure Flow.next) (fun e => pure (loopFlow e))
      modifyShell fun sh => { sh with loops := sh.loops - 1 }
      match flow with
      | .next => status := (← getShell).status
      | .stop =>
        setStatus 0
        return
      | .escape e => throw e
    throw .exhausted

/-- Run a `for` loop over `vals`, its status starting as `last`. -/
def forRun : Nat → String → List String → Cmd → Nat → Sh Unit
  | 0, _, _, _, _ => throw .exhausted
  | n + 1, name, vals, body, last => do
    let mut status := last
    for v in vals do
      spend 1
      assignVar name v
      modifyShell fun sh => { sh with loops := sh.loops + 1 }
      let flow ← tryCatch (do exec n body; pure Flow.next) (fun e => pure (loopFlow e))
      modifyShell fun sh => { sh with loops := sh.loops - 1 }
      match flow with
      | .next => status := (← getShell).status
      | .stop =>
        setStatus 0
        return
      | .escape e => throw e
    setStatus status

/-- Run the first arm of a `case` whose pattern matches `s`. -/
def caseRun : Nat → String → List (List Word × Cmd) → Sh Unit
  | 0, _, _ => throw .exhausted
  | _ + 1, _, [] => setStatus 0
  | n + 1, s, (pats, body) :: rest => do
    if ← anyPattern n s pats then
      setStatus 0
      exec n body
    else caseRun n s rest

/-- Whether one of the patterns matches `s`. -/
def anyPattern : Nat → String → List Word → Sh Bool
  | 0, _, _ => throw .exhausted
  | _ + 1, _, [] => pure false
  | n + 1, s, w :: ws => do
    spend (2 + s.length / 64)
    let f ← expandParts n false w {}
    let qs := f.finish.flatten
    if patMatch (toPattern (qs.length + 1) qs) s.toList then pure true else anyPattern n s ws

/-- Run a pipeline. -/
def pipelineRun : Nat → Bool → List Cmd → Sh Unit
  | 0, _, _ => throw .exhausted
  | n + 1, negate, cmds => do
    match cmds with
    | [c] => if negate then conditionally n c else exec n c
    | _ => pipeStages n cmds none
    if negate then setStatus (if (← getShell).status == 0 then 1 else 0)

/-- Run the stages of a pipe, each in a child, feeding each the output of the one before. -/
def pipeStages : Nat → List Cmd → Option Nat → Sh Unit
  | 0, _, _ => throw .exhausted
  | _ + 1, [], _ => pure ()
  | n + 1, c :: rest, input => do
    spend 20
    let sh ← getShell
    let child := sh.forSubshell
    let child := match input with
      | some id => child.setFd 0 (.opened id)
      | none => child
    if rest.isEmpty then
      let e ← foreground n true child (processBody n (exec n c))
      setStatus e.status
    else
      -- A writer that fills the pipe is stopped as if its reader had gone; when the reader
      -- then wanted more than it got, the whole pipeline runs again with a larger pipe.
      let w0 ← get
      let mut finished := false
      for (cap, last) in pipeCapacities do
        if !finished then
          set w0
          let saved ← getProc
          modifyProc fun p => { p with captured := #[], pipeCut := false,
                                       captureLimit := if last then none else some cap }
          let _ ← foreground n true (child.setFd 1 .capture) (processBody n (exec n c))
          let done ← getProc
          modifyProc fun p => { p with captured := saved.captured, pipeCut := saved.pipeCut,
                                       captureLimit := saved.captureLimit }
          let id ← openBytes done.captured.toList
          pipeStages n rest (some id)
          let drained := ((← getProc).files[id]?).any (·.drained)
          if last || !(done.pipeCut && drained) then finished := true

end

end Fanout.Posix
