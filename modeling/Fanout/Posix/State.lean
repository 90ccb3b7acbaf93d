import Fanout.Posix.Syntax
import Fanout.Host.Fs
import Fanout.Text.Bytes
import Fanout.Process.Watch

/-!
# The state of a running shell

A shell is a process on a clock counted in nanoseconds. Commands that only compute take no
time; waiting for a child (`sleep`, `wait`) lets the clock run, and while it runs the signals
addressed to the process arrive. Those signals are known in advance as a schedule: the
supervisor of a task decides when it sends `SIGTERM` and `SIGKILL` before the task starts.

A signal with a trap waits in `pending` until the current command is done, and its action runs
then; `wait` is cut short by it. A signal without a trap ends the process, except those that are
ignored by default (`SIGCHLD`, `SIGCONT`, `SIGURG`, `SIGWINCH`) and those the shell ignores.

What the shell writes to its standard output and error pipes is logged with the time it was
written, so that the writes of several processes can be merged in the order they happened.
-/

namespace Fanout.Posix

/-- A shell variable. -/
structure Var where
  value : String
  exported : Bool := false
  readonly : Bool := false
  /-- A variable marked (exported or read-only) before it has a value. -/
  unset : Bool := false
  deriving Inhabited, Repr

/-- What the shell does with a signal it traps. -/
inductive Trap where
  | ignore
  | run (action : String)
  deriving Inhabited, Repr, BEq

/-- What a file descriptor is connected to. -/
inductive Outlet where
  /-- The pipe the supervisor reads as standard output. -/
  | stdout
  /-- The pipe the supervisor reads as standard error. -/
  | stderr
  /-- The null device: writes vanish, reads find the end at once. -/
  | null
  /-- A device on which every write fails for want of space. -/
  | full
  /-- The buffer of a command substitution or of the left side of a pipe. -/
  | capture
  /-- An open file of the process table, by its number. -/
  | opened (id : Nat)
  deriving Inhabited, Repr, BEq

/-- An open file, shared by every descriptor copied from the one that opened it, in this
process and its children. A file (`path`) is read and written at `offset`, or written at its
end when opened to append; a pipe or a here-document (no path) holds the bytes not yet read. -/
structure OpenFile where
  path : Option String := none
  data : List UInt8 := []
  offset : Nat := 0
  append : Bool := false
  readable : Bool := true
  writable : Bool := false
  /-- Whether a reader has asked for more than the data held, so that it would have waited for
  a writer. -/
  drained : Bool := false
  /-- For a file: the bytes from an offset on, kept with the file's stamp when they were taken,
  so that reading on from there need not take the file's bytes again. -/
  ahead : Option (Nat × Nat × List UInt8) := none
  deriving Inhabited, Repr

/-- One resource limit: the soft limit, which applies, and the hard one, its ceiling; `none`
is no limit. -/
structure Limit where
  soft : Option Nat
  hard : Option Nat
  deriving Inhabited, Repr, BEq

/-- The resource limits of a process by the letter `ulimit` gives them, in bytes (or seconds,
or a count). -/
structure Limits where
  table : List (Char × Limit) :=
    [('t', ⟨none, none⟩), ('f', ⟨none, none⟩), ('d', ⟨none, none⟩),
     ('s', ⟨some 8388608, none⟩), ('c', ⟨some 0, none⟩), ('m', ⟨none, none⟩),
     ('l', ⟨some 8388608, some 8388608⟩), ('p', ⟨none, none⟩),
     ('n', ⟨some 1048576, some 1048576⟩), ('v', ⟨none, none⟩), ('w', ⟨none, none⟩),
     ('r', ⟨some 0, some 0⟩)]
  deriving Inhabited, Repr, BEq

namespace Limits

/-- The limit with letter `c`. -/
def get (l : Limits) (c : Char) : Limit := (l.table.lookup c).getD ⟨none, none⟩

/-- The soft limit with letter `c`. -/
def soft (l : Limits) (c : Char) : Option Nat := (l.get c).soft

/-- Replace the limit with letter `c`. -/
def put (l : Limits) (c : Char) (v : Limit) : Limits :=
  { table := l.table.map fun (k, x) => if k == c then (k, v) else (k, x) }

/-- Set both the soft and the hard limit with letter `c`. -/
def setBoth (l : Limits) (c : Char) (v : Option Nat) : Limits := l.put c ⟨v, v⟩

end Limits

/-- The shell's own state: what a subshell copies. -/
structure Shell where
  arg0 : String
  params : List String := []
  vars : List (String × Var) := []
  funcs : List (String × Cmd) := []
  traps : List (Nat × Trap) := []
  status : Nat := 0
  cwd : String := "/"
  /-- The value of `$$`: the process id of the outermost shell. -/
  pid : Nat
  lastBg : Option Nat := none
  fds : List (Nat × Outlet) := [(0, .null), (1, .stdout), (2, .stderr)]
  /-- The letters of the options that are on (`set -e` puts in `e`). -/
  opts : List Char := []
  /-- The bits taken away from the mode of every file and directory the shell makes. -/
  umask : Nat := 0o022
  aliases : List (String × String) := []
  /-- For each function being run, innermost first, the variables it made local, with the
  values they had before. -/
  frames : List (List (String × Option Var)) := []
  /-- The builtin running (`eval`, `.`), whose name its messages carry. -/
  commandName : Option String := none
  /-- Whether a write to standard output failed since the builtin running started. -/
  outputFailed : Bool := false
  /-- Where `getopts` is inside a word of grouped options: the value of `OPTIND` it left and
  the offset in the word before it. -/
  optOffset : Option (String × Nat) := none
  /-- Whether a failing command here is a condition, which `set -e` does not stop at. -/
  inCondition : Bool := false
  line : Nat := 0
  limits : Limits := {}
  bodies : List (Nat × String) := []
  loops : Nat := 0
  /-- The status of the last command substitution of the current command. -/
  lastSubst : Option Nat := none
  /-- Whether the shell speaks the bash dialect: `**` in arithmetic, substrings, replacements
  and case changes in `${…}`, `echo` without escapes unless `-e`, and messages that say
  `line N`. -/
  bash : Bool := false
  /-- The programs found by a search of `PATH`, by name, in the order they were found. -/
  hashed : List (String × String) := []
  deriving Inhabited

/-- A background job: the shell it started from, its command, and the signals sent to it. -/
structure Job where
  pid : Nat
  start : Nat
  shell : Shell
  cmd : Cmd
  kills : List (Nat × Nat) := []
  reaped : Bool := false
  /-- A job whose parent has ended; no one waits for it. -/
  orphan : Bool := false
  deriving Inhabited

/-- The state of the process the shell runs in. -/
structure Proc where
  now : Nat := 0
  /-- The process id. -/
  self : Nat
  /-- Signals still to arrive, as times and numbers, earliest first. -/
  incoming : List (Nat × Nat) := []
  /-- The signals every process of the group receives. -/
  group : List (Nat × Nat) := []
  pending : List Nat := []
  log : Array Output := #[]
  captured : Array UInt8 := #[]
  fs : Host.Fs := Host.Fs.empty
  jobs : List Job := []
  nextPid : Nat := 0
  /-- Signals sent to other processes of the run: target, time and number. -/
  outbound : List (Nat × Nat × Nat) := []
  /-- The steps of commands the process may still run before it counts as running forever. -/
  budget : Nat := 6000000
  /-- The open files, by number. -/
  files : Array OpenFile := #[]
  /-- The most bytes the pipe being captured takes before its reader is taken to have gone. -/
  captureLimit : Option Nat := none
  /-- Whether a write to the captured pipe went past that limit. -/
  pipeCut : Bool := false
  deriving Inhabited

/-- A shell in its process. -/
structure World where
  sh : Shell
  p : Proc
  deriving Inhabited

/-- Why the running of commands stops early. -/
inductive Stop where
  /-- The shell exits with this status. -/
  | exit (code : Nat)
  /-- The process is killed by this signal. -/
  | killed (signal : Nat)
  | brk (levels : Nat)
  | cont (levels : Nat)
  | ret (code : Nat)
  /-- The step budget ran out. -/
  | exhausted
  /-- An error the shell has reported: it ends the shell with status 2, unless a builtin that
  is not special raised it, which then just fails with that status. -/
  | error
  deriving Inhabited, Repr, BEq

/-- The shell's computations: they change the world, and may stop early; the changes made
before a stop are kept. -/
abbrev Sh := EStateM Stop World

/-- Run shell steps from a world: how they ended, and the world after them. -/
def Sh.runFrom {α : Type} (x : Sh α) (w : World) : Except Stop α × World :=
  match x.run w with
  | .ok a w2 => (.ok a, w2)
  | .error e w2 => (.error e, w2)

end Fanout.Posix

namespace Fanout

/-- The status a shell sees for a child that ended so. -/
def Exit.status : Exit → Nat
  | .code n => n
  | .signal s => 128 + s

end Fanout

namespace Fanout.Posix

/-! ## Signals -/

/-- The signals the shell knows by name, with their numbers: the classic ones (the stack fault,
16, has no name here), then the real-time signals 34 to 64, named from `RTMIN` up to `RTMIN+15`
and from `RTMAX-14` up to `RTMAX`. -/
def signalNames : List (Nat × String) :=
  [(1, "HUP"), (2, "INT"), (3, "QUIT"), (4, "ILL"), (5, "TRAP"), (6, "ABRT"), (7, "BUS"),
   (8, "FPE"), (9, "KILL"), (10, "USR1"), (11, "SEGV"), (12, "USR2"), (13, "PIPE"), (14, "ALRM"),
   (15, "TERM"), (17, "CHLD"), (18, "CONT"), (19, "STOP"), (20, "TSTP"),
   (21, "TTIN"), (22, "TTOU"), (23, "URG"), (24, "XCPU"), (25, "XFSZ"), (26, "VTALRM"),
   (27, "PROF"), (28, "WINCH"), (29, "IO"), (30, "PWR"), (31, "SYS")] ++
  (List.range 31).map fun i =>
    (34 + i, if i == 0 then "RTMIN" else if i == 30 then "RTMAX"
      else if i ≤ 15 then "RTMIN+" ++ toString i else "RTMAX-" ++ toString (30 - i))

/-- The name of a signal in the shell's listings: its name, or its number when it has none. -/
def listedName (n : Nat) : String := (signalNames.lookup n).getD (toString n)

/-- How a signal is described when it ends a foreground child. -/
def signalText (n : Nat) : String :=
  match n with
  | 1 => "Hangup"
  | 2 => "Interrupt"
  | 3 => "Quit"
  | 4 => "Illegal instruction"
  | 5 => "Trace/breakpoint trap"
  | 6 => "Aborted"
  | 7 => "Bus error"
  | 8 => "Floating point exception"
  | 9 => "Killed"
  | 10 => "User defined signal 1"
  | 11 => "Segmentation fault"
  | 12 => "User defined signal 2"
  | 13 => "Broken pipe"
  | 14 => "Alarm clock"
  | 15 => "Terminated"
  | 16 => "Stack fault"
  | 24 => "CPU time limit exceeded"
  | 25 => "File size limit exceeded"
  | 26 => "Virtual timer expired"
  | 27 => "Profiling timer expired"
  | 29 => "I/O possible"
  | 30 => "Power failure"
  | 31 => "Bad system call"
  | _ =>
    if 34 ≤ n && n ≤ 64 then "Real-time signal " ++ toString (n - 34)
    else "Unknown signal " ++ toString n

/-- The number of a signal named by number or by name, with or without `SIG`, in any case;
`EXIT` is zero. -/
def signalNumber? (s : String) : Option Nat :=
  if !s.isEmpty && s.all Char.isDigit then
    match s.toNat? with
    | some n => if n < 65 then some n else none
    | none => none
  else
    let up := s.toUpper
    let name := if up.startsWith "SIG" then (up.drop 3).toString else up
    if name == "EXIT" then some 0
    else (signalNames.find? (·.2 == name)).map (·.1)

/-- Whether a signal is ignored when nothing else is said about it. -/
def ignoredByDefault (n : Nat) : Bool := [17, 18, 23, 28, 19, 20, 21, 22].contains n

/-- Insert a signal into a schedule kept in order of time. -/
def insertSignal (e : Nat × Nat) : List (Nat × Nat) → List (Nat × Nat)
  | [] => [e]
  | x :: xs => if e.1 < x.1 then e :: x :: xs else x :: insertSignal e xs

/-! ## Variables -/

namespace Shell

/-- The line in messages: the number alone, or `line N` in the bash dialect. -/
def lineLabel (sh : Shell) : String :=
  if sh.bash then "line " ++ toString sh.line else toString sh.line

/-- The variable `n`. -/
def var? (sh : Shell) (n : String) : Option Var := sh.vars.lookup n

/-- The value of variable `n`. -/
def get? (sh : Shell) (n : String) : Option String :=
  match sh.var? n with
  | some v => if v.unset then none else some v.value
  | none => none

/-- Set variable `n`, keeping its flags; with `set -a` it is exported. Setting `PATH` forgets
the programs found before. -/
def set (sh : Shell) (n v : String) : Shell :=
  let auto := sh.opts.contains 'a'
  let sh := if n == "PATH" then { sh with hashed := [] } else sh
  match sh.var? n with
  | some old =>
    { sh with vars := sh.vars.map fun (k, x) =>
        if k == n then (k, { old with value := v, unset := false, exported := old.exported || auto })
        else (k, x) }
  | none => { sh with vars := sh.vars ++ [(n, { value := v, exported := auto })] }

/-- Mark variable `n` exported, making it if needed. -/
def markExported (sh : Shell) (n : String) : Shell :=
  match sh.var? n with
  | some old => { sh with vars := sh.vars.map fun (k, x) => if k == n then (k, { old with exported := true }) else (k, x) }
  | none => sh

/-- Remove variable `n`. -/
def unset (sh : Shell) (n : String) : Shell := { sh with vars := sh.vars.filter (·.1 != n) }

/-- The exported variables that have values, as the environment of a child. -/
def environment (sh : Shell) : List (String × String) :=
  (sh.vars.filter fun (_, v) => v.exported && !v.unset).map fun (k, v) => (k, v.value)

/-- What the descriptor `fd` is connected to. -/
def fd? (sh : Shell) (fd : Nat) : Option Outlet := sh.fds.lookup fd

/-- Connect descriptor `fd`. -/
def setFd (sh : Shell) (fd : Nat) (o : Outlet) : Shell :=
  { sh with fds := (sh.fds.filter (·.1 != fd)) ++ [(fd, o)] }

/-- Close descriptor `fd`. -/
def closeFd (sh : Shell) (fd : Nat) : Shell := { sh with fds := sh.fds.filter (·.1 != fd) }

/-- The trap set for signal `n`. -/
def trap? (sh : Shell) (n : Nat) : Option Trap := sh.traps.lookup n

/-- Whether the option with letter `c` is on. -/
def opt (sh : Shell) (c : Char) : Bool := sh.opts.contains c

/-- Turn the option with letter `c` on or off. -/
def setOpt (sh : Shell) (c : Char) (on : Bool) : Shell :=
  { sh with opts := if on then (if sh.opts.contains c then sh.opts else sh.opts ++ [c])
      else sh.opts.filter (· != c) }

/-- The state a subshell starts from: traps with an action are reset, ignored ones stay. -/
def forSubshell (sh : Shell) : Shell :=
  { sh with traps := sh.traps.filter (·.2 == .ignore) }

end Shell

/-! ## Basic operations -/

/-- The shell. -/
@[inline] def getShell : Sh Shell := do return (← get).sh

/-- The process. -/
@[inline] def getProc : Sh Proc := do return (← get).p

/-- Change the shell. The world is taken apart first, so that a shell held nowhere else is
changed in place. -/
@[inline] def modifyShell (f : Shell → Shell) : Sh Unit := modify fun ⟨sh, p⟩ => ⟨f sh, p⟩

/-- Change the process, in place when it is held nowhere else. -/
@[inline] def modifyProc (f : Proc → Proc) : Sh Unit := modify fun ⟨sh, p⟩ => ⟨sh, f p⟩

/-- Mark a signal pending; one already pending is not counted twice, as the kernel keeps one
bit for each signal. -/
def addPending (sig : Nat) (pending : List Nat) : List Nat :=
  if pending.contains sig then pending else pending ++ [sig]

/-- Deliver a signal the process sends to itself: it takes effect at once as if it had just
arrived. -/
def selfSignal (sig : Nat) : Sh Unit := do
  if sig == 0 then return
  if sig == 9 then throw (.killed 9)
  let sh ← getShell
  match sh.trap? sig with
  | some .ignore => pure ()
  | some (.run _) => modifyProc fun p => { p with pending := addPending sig p.pending }
  | none => if ignoredByDefault sig then pure () else throw (.killed sig)

/-- Write bytes to descriptor `fd`; whether it is open for writing. -/
def writeFd (fd : Nat) (bs : List UInt8) : Sh Bool := do
  let w ← get
  match w.sh.fd? fd with
  | some .stdout =>
    if !bs.isEmpty then modifyProc fun p => { p with log := p.log.push ⟨p.now, 1, bs⟩ }
    return true
  | some .stderr =>
    if !bs.isEmpty then modifyProc fun p => { p with log := p.log.push ⟨p.now, 2, bs⟩ }
    return true
  | some .null => return true
  | some .full => return bs.isEmpty
  | some .capture =>
    match w.p.captureLimit with
    | some lim =>
      if w.p.captured.size + bs.length > lim then
        -- The reader is taken to have gone: what fits is kept, and the writer gets `SIGPIPE`.
        modifyProc fun p => { p with captured := p.captured ++ (bs.take (lim - p.captured.size)).toArray,
                                     pipeCut := true }
        selfSignal 13
        return false
      modifyProc fun p => { p with captured := p.captured ++ bs.toArray }
      return true
    | none =>
      modifyProc fun p => { p with captured := p.captured ++ bs.toArray }
      return true
  | some (.opened id) =>
    match w.p.files[id]? with
    | some f =>
      match f.path with
      | some path =>
        if !f.writable then return false
        let old := match w.p.fs.node? path with
          | some (.file c _) => c
          | _ => ""
        let mode := match w.p.fs.node? path with
          | some (.file _ m) => m
          | _ => 0o644
        let pos := if f.append then old.length else f.offset
        -- A write past the limit on file size keeps what fits, then the signal for it arrives.
        let room := match w.sh.limits.soft 'f' with
          | some lim => lim - pos
          | none => bs.length
        let put := Text.ofBytes (bs.take room)
        let before := (old.take pos).toString ++ String.ofList (List.replicate (pos - old.length) '\x00')
        let after := (old.drop (pos + put.length)).toString
        modifyProc fun p => { p with
          fs := p.fs.put path (.file (before ++ put ++ after) mode)
          files := p.files.set! id { f with offset := pos + put.length } }
        if room < bs.length then selfSignal 25
        return true
      | none => return false
    | none => return false
  | _ => return false

/-- Open a file in the process table: its number. -/
def openFile (f : OpenFile) : Sh Nat := do
  let id := (← getProc).files.size
  modifyProc fun p => { p with files := p.files.push f }
  return id

/-- Open the bytes of a pipe or a here-document for reading: its number. -/
def openBytes (bs : List UInt8) : Sh Nat := openFile { data := bs }

/-- What is left to read on descriptor `fd`, without reading it; none when it cannot be read. -/
def unread (fd : Nat) : Sh (Option (List UInt8)) := do
  let w ← get
  match w.sh.fd? fd with
  | some (.opened id) =>
    match w.p.files[id]? with
    | some f =>
      if !f.readable then return none
      match f.path with
      | some path =>
        match w.p.fs.node? path with
        | some (.file c _) =>
          let stamp := w.p.fs.stamp path
          match f.ahead with
          | some (st, off, bs) =>
            if st == stamp && off == f.offset then return some bs
            else
              let bs := (Text.toBytes c).drop f.offset
              modifyProc fun p => { p with files := p.files.set! id { f with ahead := some (stamp, f.offset, bs) } }
              return some bs
          | none =>
            let bs := (Text.toBytes c).drop f.offset
            modifyProc fun p => { p with files := p.files.set! id { f with ahead := some (stamp, f.offset, bs) } }
            return some bs
        | _ => return some []
      | none => return some f.data
    | none => return none
  | some .null => return some []
  | _ => return none

/-- Read `k` bytes from descriptor `fd`. -/
def consume (fd : Nat) (k : Nat) : Sh Unit := do
  let w ← get
  match w.sh.fd? fd with
  | some (.opened id) =>
    match w.p.files[id]? with
    | some f =>
      let ahead := match f.ahead with
        | some (st, off, bs) => if off == f.offset then some (st, off + k, bs.drop k) else none
        | none => none
      let f := if f.path.isSome then { f with offset := f.offset + k, ahead }
        else { f with data := f.data.drop k }
      modifyProc fun p => { p with files := p.files.set! id f }
    | none => pure ()
  | _ => pure ()

/-- The sizes a pipe between two commands is given in turn: a writer that fills one is stopped,
and the last has no bound. -/
def pipeCapacities : List (Nat × Bool) := [(65536, false), (1048576, false), (0, true)]

/-- Note that the reader of descriptor `fd` asked for more than it holds. -/
def markDrained (fd : Nat) : Sh Unit := do
  let w ← get
  match w.sh.fd? fd with
  | some (.opened id) =>
    match w.p.files[id]? with
    | some f => modifyProc fun p => { p with files := p.files.set! id { f with drained := true } }
    | none => pure ()
  | _ => pure ()

/-- Whether descriptor `fd` is a file, where a reader can go back to leave unused bytes unread. -/
def seekable (fd : Nat) : Sh Bool := do
  let w ← get
  match w.sh.fd? fd with
  | some (.opened id) => return ((w.p.files[id]?).bind (·.path)).isSome
  | _ => return false

/-- Write a byte string to standard output, noting a failure for the builtin running. -/
def out (s : String) : Sh Unit := do
  if !(← writeFd 1 (Text.toBytes s)) then modifyShell fun sh => { sh with outputFailed := true }

/-- Write a byte string to standard error. -/
def err (s : String) : Sh Unit := do let _ ← writeFd 2 (Text.toBytes s)

/-- Write a message to standard error, after the shell's name and line and the name of the
builtin running: `name: line: message` or `name: line: builtin: message`. -/
def complain (msg : String) : Sh Unit := do
  let sh ← getShell
  let lead := match sh.commandName with
    | some c => c ++ ": "
    | none => ""
  err (sh.arg0 ++ ": " ++ sh.lineLabel ++ ": " ++ lead ++ msg ++ "\n")

/-- Write a builtin's message to standard error: `name: line: builtin: message`. -/
def complainAs (cmd msg : String) : Sh Unit := do
  let sh ← getShell
  err (sh.arg0 ++ ": " ++ sh.lineLabel ++ ": " ++ cmd ++ ": " ++ msg ++ "\n")

/-- Set `$?`. -/
@[inline] def setStatus (n : Nat) : Sh Unit := modifyShell fun sh => { sh with status := n }

/-- Report an error and raise it: the shell ends with status 2 unless a regular builtin is
running, which then fails with status 2. -/
def shError {α : Type} (msg : String) : Sh α := do
  complain msg
  setStatus 2
  throw .error

/-- Assign a variable; a read-only one is an error. -/
def assignVar (k v : String) : Sh Unit := do
  match (← getShell).var? k with
  | some x =>
    if x.readonly then shError (k ++ ": is read only")
    else modifyShell fun sh => sh.set k v
  | none => modifyShell fun sh => sh.set k v

/-- Use `k` steps of the budget; a process that has fewer left counts as running forever. -/
def spend (k : Nat) : Sh Unit := do
  if (← getProc).budget < k then throw .exhausted
  modifyProc fun p => { p with budget := p.budget - k }

/-- Let the clock run to `t` while the shell waits. Signals that arrive by `t` take effect (a
signal and the end of the wait at the same time count the signal first):
a signal without a trap ends the process, an ignored one is dropped, and one with a trap is
kept pending; with `interruptible` (the `wait` command) such a signal ends the wait, and its
number is returned. -/
def blockUntil (t : Nat) (interruptible : Bool) : Sh (Option Nat) := do
  let rec go : List (Nat × Nat) → Sh (Option Nat)
    | [] => pure none
    | (ts, sig) :: rest => do
      if ts ≤ t then
        modifyProc fun p => { p with incoming := rest, now := max p.now ts }
        if sig == 9 then throw (.killed 9)
        let sh ← getShell
        match sh.trap? sig with
        | some .ignore => go rest
        | some (.run _) =>
          modifyProc fun p => { p with pending := addPending sig p.pending }
          if interruptible then return some sig else go rest
        | none => if ignoredByDefault sig then go rest else throw (.killed sig)
      else pure none
  let r ← go (← getProc).incoming
  match r with
  | some s => return some s
  | none =>
    modifyProc fun p => { p with now := max p.now t }
    return none

end Fanout.Posix
