import Fanout.Posix.Numeric

/-!
# The shell's `echo` and `printf`

Both write bytes: an octal escape such as `\377` writes one byte, which need not be valid UTF-8,
and texts are byte strings, so `%.1s` keeps one byte and `%c` writes the first byte of its
argument.

`printf` reads its format from the left: `\` starts an escape (`\\`, `\a`, `\b`, `\e`, `\f`,
`\n`, `\r`, `\t`, `\v`, or one to three octal digits; any other backslash is written as it is),
`%%` writes `%`, and `%` starts a conversion: flags from `#-+ 0`, a width (digits or `*`), a
precision (`.` then digits or `*`) and a letter. The format is used again while arguments remain
and the last pass took some; missing arguments count as empty.

Numbers are read as the C library reads them (`'c` or `"c` gives the code of the byte `c`), and
the floating-point conversions work in double precision. A number that is not wholly read, or
out of range, is still used, with a warning and status 1. An unknown conversion letter is an
error that ends `printf` with status 2.

`echo` and `%b` share their escapes: those of the format, octal as `\0` and up to three digits,
and `\c`, which ends all output at once.
-/

namespace Fanout.Posix

/-- Whether a character is an octal digit. -/
def isOctal (c : Char) : Bool := '0' ≤ c && c ≤ '7'

/-- Read up to `k` octal digits: their value and the rest. -/
def octalRun : Nat → List Char → Nat → Nat × List Char
  | 0, cs, v => (v, cs)
  | k + 1, c :: rest, v => if isOctal c then octalRun k rest (8 * v + (c.toNat - '0'.toNat)) else (v, c :: rest)
  | _ + 1, [], v => (v, [])

/-- The byte of a one-letter escape. -/
def escapeLetter (c : Char) : Option Char :=
  match c with
  | '\\' => some '\\'
  | 'a' => some '\x07'
  | 'b' => some '\x08'
  | 'e' => some '\x1b'
  | 'f' => some '\x0c'
  | 'n' => some '\n'
  | 'r' => some '\r'
  | 't' => some '\t'
  | 'v' => some '\x0b'
  | _ => none

/-- The byte of an octal value, which keeps its low eight bits. -/
def octalByte (v : Nat) : Char := Char.ofNat (v % 256)

/-- One escape of a format after its backslash: the byte and the rest. An escape that is not
known is a backslash, and what follows is read again. -/
def formatEscape (cs : List Char) : Char × List Char :=
  match cs with
  | d :: r =>
    if isOctal d then
      let (v, r2) := octalRun 3 cs 0
      (octalByte v, r2)
    else
      match escapeLetter d with
      | some b => (b, r)
      | none => ('\\', cs)
  | [] => ('\\', [])

/-- Expand the escapes of `%b` and `echo`: the bytes, and whether `\c` ended the output. -/
def bEscapes : Nat → List Char → String → String × Bool
  | 0, _, acc => (acc, false)
  | _ + 1, [], acc => (acc, false)
  | fuel + 1, '\\' :: rest, acc =>
    match rest with
    | 'c' :: _ => (acc, true)
    | '0' :: d :: r =>
      if isOctal d then
        let (v, r2) := octalRun 3 (d :: r) 0
        bEscapes fuel r2 (acc.push (octalByte v))
      else
        let (b, r2) := formatEscape rest
        bEscapes fuel r2 (acc.push b)
    | _ =>
      let (b, r2) := formatEscape rest
      bEscapes fuel r2 (acc.push b)
  | fuel + 1, c :: rest, acc => bEscapes fuel rest (acc.push c)

/-- The shell's `echo`: `-n` as the first argument drops the final newline; every argument's
escapes are expanded; `\c` ends the output at once. -/
def shellEcho (args : List String) : String :=
  let (nl, args) := match args with
    | "-n" :: rest => (false, rest)
    | _ => (true, args)
  let text := " ".intercalate args
  let (bytes, stopped) := bEscapes (text.length + 1) text.toList ""
  if stopped || !nl then bytes else bytes.push '\n'

/-- The state of a `printf` run: the arguments left, whether this pass took one, the bytes
written, the warnings, and whether `\c` ended the output. -/
structure PrintfState where
  args : List String
  took : Bool := false
  out : String := ""
  warnings : List String := []
  stopped : Bool := false
  deriving Inhabited

namespace PrintfState

/-- Take the next argument; none when there is none left. -/
def next (st : PrintfState) : Option String × PrintfState :=
  match st.args with
  | a :: rest => (some a, { st with args := rest, took := true })
  | [] => (none, st)

/-- Add a warning. -/
def warn (st : PrintfState) (msg : String) : PrintfState :=
  { st with warnings := st.warnings ++ [msg] }

/-- Warn about an argument that was not wholly read as a number, or was out of range. -/
def checkNumber (st : PrintfState) (a : String) (used : Nat) (range : Bool) : PrintfState :=
  if used < a.length then
    st.warn (a ++ (if used == 0 then ": expected numeric value" else ": not completely converted"))
  else if range then st.warn (a ++ ": Numerical result out of range")
  else st

/-- The next argument as a signed integer. -/
def signedArg (st : PrintfState) : Int × PrintfState :=
  match st.next with
  | (none, st) => (0, st)
  | (some a, st) =>
    match a.toList with
    | q :: rest =>
      if q == '"' || q == '\'' then ((rest.head?.map Char.toNat).getD 0, st)
      else
        let (v, used) := scanInteger 0 a.toList
        let (v, range) := clampSigned v
        (v, st.checkNumber a used range)
    | [] => (0, st)

/-- The next argument as an unsigned integer. -/
def unsignedArg (st : PrintfState) : Nat × PrintfState :=
  match st.next with
  | (none, st) => (0, st)
  | (some a, st) =>
    match a.toList with
    | q :: rest =>
      if q == '"' || q == '\'' then ((rest.head?.map Char.toNat).getD 0, st)
      else
        let (v, used) := scanInteger 0 a.toList
        let (v, range) := clampUnsigned v
        (v, st.checkNumber a used range)
    | [] => (0, st)

/-- The next argument as a double. -/
def floatArg (st : PrintfState) : FloatValue × PrintfState :=
  match st.next with
  | (none, st) => (.finite false 0 0, st)
  | (some a, st) =>
    match a.toList with
    | q :: rest =>
      if q == '"' || q == '\'' then (.finite false ((rest.head?.map Char.toNat).getD 0) 0, st)
      else
        let (v, used, range) := scanFloat .double a.toList
        (v, st.checkNumber a used range)
    | [] => (.finite false 0 0, st)

end PrintfState

/-- A `*` argument as the C library's `int`: the low 32 bits, signed. -/
def asCInt (v : Int) : Int :=
  let m : Int := 4294967296
  let r := v % m
  if r ≥ 2147483648 then r - m else r

/-- What ends a `printf` run early: an unknown conversion, with the text of its directive. -/
structure PrintfFault where
  directive : String
  deriving Inhabited, Repr

/-- Read a directive after its `%` (the format from the `%` on is `whole`): the conversion
spec, the state after any `*` arguments, and the rest after the letter; or the fault. -/
def readDirective (st : PrintfState) (whole : List Char) (cs : List Char) :
    Except PrintfFault (ConvSpec × PrintfState × List Char) :=
  let flags := cs.takeWhile fun c => "#-+ 0".toList.contains c
  let cs := cs.drop flags.length
  let sp : ConvSpec :=
    { left := flags.contains '-', zero := flags.contains '0', plus := flags.contains '+',
      space := flags.contains ' ', alt := flags.contains '#' }
  let (sp, st, cs) : ConvSpec × PrintfState × List Char := match cs with
    | '*' :: r =>
      let (v, st) := st.signedArg
      let w := asCInt v
      ({ sp with width := some w.natAbs, left := sp.left || w < 0 }, st, r)
    | _ =>
      let ds := cs.takeWhile Char.isDigit
      ({ sp with width := if ds.isEmpty then none else some (digitsValue 10 ds) }, st,
        cs.drop ds.length)
  let (sp, st, cs) : ConvSpec × PrintfState × List Char := match cs with
    | '.' :: '*' :: r =>
      let (v, st) := st.signedArg
      let p := asCInt v
      ({ sp with precision := if p < 0 then none else some p.toNat }, st, r)
    | '.' :: r =>
      let ds := r.takeWhile Char.isDigit
      ({ sp with precision := some (digitsValue 10 ds) }, st, r.drop ds.length)
    | _ => (sp, st, cs)
  let text := String.ofList (whole.take (whole.length - cs.length + 1))
  match cs with
  | c :: r =>
    if "bcsdiouxXaAeEfFgG".toList.contains c then .ok ({ sp with conv := c }, st, r)
    else .error ⟨text⟩
  | [] => .error ⟨text⟩

/-- Cut bytes to a precision. -/
def cutTo (p : Option Nat) (s : String) : String :=
  match p with
  | some k => (s.take k).toString
  | none => s

/-- Carry out one conversion. -/
def convert (sp : ConvSpec) (st : PrintfState) : PrintfState :=
  match sp.conv with
  | 's' =>
    let (a, st) := st.next
    { st with out := st.out ++ padBlank sp (cutTo sp.precision (a.getD "")) }
  | 'b' =>
    let (a, st) := st.next
    let text := a.getD ""
    let (bytes, stopped) := bEscapes (text.length + 1) text.toList ""
    { st with out := st.out ++ padBlank sp (cutTo sp.precision bytes), stopped := stopped }
  | 'c' =>
    let (a, st) := st.next
    let b := ((a.bind fun s => s.toList.head?).getD '\x00')
    { st with out := st.out ++ padBlank sp (String.singleton b) }
  | 'd' | 'i' =>
    let (v, st) := st.signedArg
    { st with out := st.out ++ formatSigned sp v }
  | 'o' | 'u' | 'x' | 'X' =>
    let (v, st) := st.unsignedArg
    { st with out := st.out ++ formatUnsigned sp v }
  | _ =>
    let (v, st) := st.floatArg
    { st with out := st.out ++ formatFloat .double sp v }

/-- One pass over the format. -/
def formatPass : Nat → List Char → PrintfState → Except (PrintfFault × PrintfState) PrintfState
  | 0, _, st => .ok st
  | _ + 1, [], st => .ok st
  | fuel + 1, c :: rest, st =>
    if c == '\\' then
      let (b, r) := formatEscape rest
      formatPass fuel r { st with out := st.out.push b }
    else if c == '%' then
      match rest with
      | '%' :: r => formatPass fuel r { st with out := st.out.push '%' }
      | _ =>
        match readDirective st (c :: rest) rest with
        | .error f => .error (f, st)
        | .ok (sp, st, r) =>
          let st := convert sp st
          if st.stopped then .ok st else formatPass fuel r st
    else formatPass fuel rest { st with out := st.out.push c }

/-- What `printf` did: the bytes written, its warnings, and the fault that ended it, if any. -/
structure PrintfRun where
  out : String
  warnings : List String
  fault : Option PrintfFault := none
  deriving Inhabited

/-- Run the shell's `printf` with a format and arguments. -/
def shellPrintf (fmt : String) (args : List String) : PrintfRun :=
  let rec passes : Nat → PrintfState → PrintfRun
    | 0, st => ⟨st.out, st.warnings, none⟩
    | k + 1, st =>
      match formatPass (fmt.length + 1) fmt.toList { st with took := false } with
      | .error (f, st2) => ⟨st2.out, st2.warnings, some f⟩
      | .ok st2 =>
        if st2.stopped || st2.args.isEmpty || !st2.took then ⟨st2.out, st2.warnings, none⟩
        else passes k st2
  passes (args.length + 1) { args }

end Fanout.Posix
