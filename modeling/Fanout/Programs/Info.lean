import Fanout.Programs.Basic
import Fanout.Posix.Numeric

/-!
# Programs that wait or report on the machine

`sleep` waits for the sum of its intervals: each a floating-point number of seconds, with an
optional unit `s`, `m`, `h` or `d`. `true` and `false` only end. `id`, `whoami` and `uname` describe
the machine's one user, `root`, and its system; `printenv` writes variables of its environment,
and `nproc` the number of processors.
-/

namespace Fanout.Programs

open Fanout.Posix

/-- How many seconds one unit of an interval's suffix stands for. -/
def intervalUnit (c : Option Char) : Option Nat :=
  match c with
  | none => some 1
  | some 's' => some 1
  | some 'm' => some 60
  | some 'h' => some 3600
  | some 'd' => some 86400
  | _ => none

/-- A value `m · 2^e` times `k` in nanoseconds, rounded down. -/
def nanosOf (m : Nat) (e : Int) (k : Nat) : Nat :=
  let scaled := m * k * 1000000000
  if e ≥ 0 then scaled * Nat.pow 2 e.toNat else scaled / Nat.pow 2 e.natAbs

/-- The length of an interval operand in nanoseconds; none when it is not one. An infinite
interval lasts a thousand years. -/
def intervalNanos (a : String) : Option Nat :=
  let (v, used, _) := scanFloat .double a.toList
  let rest := a.toList.drop used
  if used == 0 || rest.length > 1 then none
  else
    match intervalUnit rest.head?, v with
    | some k, .finite false m e => some (nanosOf m e k)
    | some _, .finite true m _ => if m == 0 then some 0 else none
    | some _, .inf false => some (1000 * 365 * 86400 * 1000000000)
    | _, _ => none

/-- The `sleep` program. -/
def sleepProgram (name : String) (args : List String) : Sh Unit := do
  let (_, ops) ← options name "" true args
  if ops.isEmpty then usageError name "missing operand"
  let mut total := 0
  let mut bad := false
  for a in ops do
    match intervalNanos a with
    | some d => total := total + d
    | none =>
      say name ("invalid time interval " ++ (← quoted a))
      bad := true
  if bad then
    tryHelp name
    exitWith 1
  let _ ← blockUntil ((← getProc).now + total) false
  exitWith 0

/-- The `id` program: the user and group numbers or names of `root`. -/
def idProgram (name : String) (args : List String) : Sh Unit := do
  let (opts, ops) ← options name "ugGnrz" true args
    [("user", 'u'), ("group", 'g'), ("groups", 'G'), ("name", 'n'), ("real", 'r'),
     ("zero", 'z')]
  match ops with
  | o :: _ =>
    if o != "root" && o != "0" then
      say name ((← quoted o) ++ ": no such user")
      exitWith 1
  | [] => pure ()
  let names := hasOpt opts 'n'
  let one := if names then "root" else "0"
  if hasOpt opts 'u' || hasOpt opts 'g' || hasOpt opts 'G' then
    out (one ++ "\n")
  else if names then
    usageError name "cannot print only names or real IDs in default format"
  else out "uid=0(root) gid=0(root) groups=0(root)\n"
  exitWith 0

/-- The `whoami` program. -/
def whoamiProgram (name : String) (args : List String) : Sh Unit := do
  let (_, ops) ← options name "" true args
  match ops with
  | o :: _ => usageError name ("extra operand " ++ (← quoted o))
  | [] =>
    out "root\n"
    exitWith 0

/-- What `uname` reports for each of its letters, in the order it writes them. -/
def unameFields : List (Char × String) :=
  [('s', "Linux"), ('n', "localhost"), ('r', "6.8.0"), ('v', "#1 SMP"), ('m', "x86_64"),
   ('p', "unknown"), ('i', "unknown"), ('o', "GNU/Linux")]

/-- The `uname` program. -/
def unameProgram (name : String) (args : List String) : Sh Unit := do
  let (opts, ops) ← options name "asnrvmpio" true args
    [("all", 'a'), ("kernel-name", 's'), ("nodename", 'n'), ("kernel-release", 'r'),
     ("kernel-version", 'v'), ("machine", 'm'), ("processor", 'p'),
     ("hardware-platform", 'i'), ("operating-system", 'o')]
  match ops with
  | o :: _ => usageError name ("extra operand " ++ (← quoted o))
  | [] =>
    let all := hasOpt opts 'a'
    let chosen := unameFields.filter fun (c, v) =>
      if all then !((c == 'p' || c == 'i') && v == "unknown") else hasOpt opts c
    let chosen := if chosen.isEmpty then [('s', "Linux")] else chosen
    out (" ".intercalate (chosen.map (·.2)) ++ "\n")
    exitWith 0

/-- The `printenv` program: every variable as `name=value`, or the values of those named; it
fails when one of them is not set. -/
def printenvProgram (name : String) (args : List String) : Sh Unit := do
  let (opts, ops) ← options name "0" true args [("null", '0')]
  let ending := if hasOpt opts '0' then "\x00" else "\n"
  let env := (← getShell).environment
  match ops with
  | [] =>
    out (String.join (env.map fun (k, v) => k ++ "=" ++ v ++ ending))
    exitWith 0
  | _ =>
    let mut missing := false
    for o in ops do
      match env.lookup o with
      | some v => if o.contains '=' then missing := true else out (v ++ ending)
      | none => missing := true
    exitWith (if missing then 1 else 0)

/-- The `nproc` program. -/
def nprocProgram (name : String) (args : List String) : Sh Unit := do
  let (_, ops) ← options name "" true args
  match ops with
  | o :: _ => usageError name ("extra operand " ++ (← quoted o))
  | [] =>
    out "1\n"
    exitWith 0

end Fanout.Programs
