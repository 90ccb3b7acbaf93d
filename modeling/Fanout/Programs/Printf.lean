import Fanout.Programs.Basic
import Fanout.Posix.Printf

/-!
# The `printf` and `echo` programs

The installed `printf` differs from the shell's: its floating-point conversions work in
extended precision, integers accept a character constant of a whole UTF-8 character in a UTF-8
locale, `%b` takes no width, `%q` quotes its argument for the shell, and the escapes of the
format add `\"`, `\c` (which ends the program at once), `\xHH`, `\uHHHH` and `\UHHHHHHHH`. A
character that the locale cannot spell is written as its escape, `é`.

Its messages name the program as it was started, quote the argument at fault, and go out
before the output, which is held until the program ends. A misused conversion ends it with
status 1; a bad number only sets that status.

The installed `echo` takes the options `-n`, `-e` and `-E` (grouped too) before its first
other argument; only with `-e` does it expand escapes, as `%b` does.
-/

namespace Fanout.Programs

open Fanout.Posix

/-- The bytes of a character in UTF-8, as a byte string. -/
def utf8Bytes (code : Nat) : String := Text.encode (String.singleton (Char.ofNat code))

/-- How a character the locale cannot write is written: its escape with four or eight
upper-case hex digits. -/
def unicodeEscape (long : Bool) (code : Nat) : String :=
  let t := digitText 16 true code
  (if long then "\\U" else "\\u") ++ fill ((if long then 8 else 4) - t.length) '0' ++ t

/-- What ends the program: `\c`, or an error with its message. -/
inductive ProgramStop where
  | cancel
  | fail (msg : String)
  deriving Inhabited, Repr

/-- One escape after its backslash, in the program's reading: the bytes and the rest. With
`octal0` (for `%b`), a leading `0` of an octal escape is not a digit. -/
def programEscape (utf8 : Bool) (octal0 : Bool) (cs : List Char) :
    Except ProgramStop (String × List Char) :=
  match cs with
  | 'x' :: r =>
    let ds := (r.take 2).takeWhile fun c => digitValue c < 16
    if ds.isEmpty then .error (.fail "missing hexadecimal number in escape")
    else .ok (String.singleton (Char.ofNat (digitsValue 16 ds)), r.drop ds.length)
  | d :: r =>
    if isOctal d then
      let body := if octal0 && d == '0' then r else cs
      let ds := (body.take 3).takeWhile isOctal
      .ok (String.singleton (octalByte (digitsValue 8 ds)), body.drop ds.length)
    else if d == 'c' then .error .cancel
    else if d == '"' then .ok ("\"", r)
    else if d == 'u' || d == 'U' then
      let n := if d == 'u' then 4 else 8
      let ds := r.take n
      if ds.length < n || !ds.all (fun c => digitValue c < 16) then
        .error (.fail "missing hexadecimal number in escape")
      else
        let v := digitsValue 16 ds
        if (v ≤ 0x9f && v != 0x24 && v != 0x40 && v != 0x60) || (0xd800 ≤ v && v ≤ 0xdfff) then
          .error (.fail ("invalid universal character name \\" ++ String.singleton d ++
            (let t := digitText 16 false v; fill (n - t.length) '0' ++ t)))
        else .ok (if utf8 then utf8Bytes v else unicodeEscape (d == 'U') v, r.drop n)
    else
      match escapeLetter d with
      | some b => .ok (String.singleton b, r)
      | none => .ok ("\\" ++ String.singleton d, r)
  | [] => .ok ("\\", [])

/-- Expand the escapes of a text as `%b` does. -/
def programBEscapes (utf8 : Bool) : Nat → List Char → String → Except (ProgramStop × String) String
  | 0, _, acc => .ok acc
  | _ + 1, [], acc => .ok acc
  | fuel + 1, '\\' :: rest, acc =>
    match programEscape utf8 true rest with
    | .ok (s, r) => programBEscapes utf8 fuel r (acc ++ s)
    | .error e => .error (e, acc)
  | fuel + 1, c :: rest, acc => programBEscapes utf8 fuel rest (acc.push c)

/-- Quote a text for the shell as `%q` does: as it is when no character is special to the
shell; in double quotes when it holds a `'` and nothing that double quotes would change; else
in single quotes, a `'` inside as `'\''` and each unprintable byte as a `$'…'` escape. -/
def shellEscape (utf8 : Bool) (s : String) : String :=
  let cs := s.toList
  -- Bytes of a multibyte character count as one printable unit in a UTF-8 locale.
  let printable (c : Char) : Bool := (c.toNat ≥ 32 && c.toNat < 127) || (utf8 && c.toNat ≥ 128)
  let special (c : Char) : Bool := "!\"$&()*;<>[^`|?\\' \t".toList.contains c
  let forces (i : Nat) (c : Char) : Bool :=
    !printable c || special c || ((c == '#' || c == '~') && i == 0) ||
      ((c == '{' || c == '}') && cs.length == 1)
  let compatible (i : Nat) (c : Char) : Bool :=
    printable c && !(special c && c != ' ' && c != '\'') &&
      !((c == '#' || c == '~' || c == '{' || c == '}') && i != 0)
  let indexed := cs.zipIdx
  if s.isEmpty then "''"
  else if !indexed.any fun (c, i) => forces i c then s
  else if cs.contains '\'' && indexed.all fun (c, i) => compatible i c then "\"" ++ s ++ "\""
  else
    let escape (c : Char) : String :=
      match c with
      | '\x07' => "\\a"
      | '\x08' => "\\b"
      | '\x0c' => "\\f"
      | '\n' => "\\n"
      | '\r' => "\\r"
      | '\t' => "\\t"
      | '\x0b' => "\\v"
      | _ =>
        let n := c.toNat % 256
        "\\" ++ String.ofList [Char.ofNat (48 + n / 64), Char.ofNat (48 + n / 8 % 8), Char.ofNat (48 + n % 8)]
    -- Unprintable bytes go in `$'…'` pieces between the single-quoted runs.
    let body := cs.foldl (fun (acc, esc) c =>
      if !printable c then
        (acc ++ (if esc then "" else "'$'") ++ escape c, true)
      else
        let acc := if esc then acc ++ "''" else acc
        (acc ++ (if c == '\'' then "'\\''" else String.singleton c), false)) ("'", false)
    body.1 ++ "'"

/-- The state of the program's run. -/
structure ProgramPrintf where
  args : List String
  took : Nat := 0
  out : String := ""
  messages : List String := []
  failed : Bool := false
  deriving Inhabited

namespace ProgramPrintf

/-- The next argument, empty when none is left. -/
def next (st : ProgramPrintf) : String × ProgramPrintf :=
  match st.args with
  | a :: rest => (a, { st with args := rest, took := st.took + 1 })
  | [] => ("", st)

/-- Note a bad number. -/
def complainNumber (st : ProgramPrintf) (utf8 : Bool) (a : String) (used : Nat) (range : Bool) :
    ProgramPrintf :=
  let problem : Option String :=
    if range then some ": Numerical result out of range"
    else if used == 0 && a.length > 0 then some ": expected a numeric value"
    else if used < a.length then some ": value not completely converted"
    else none
  match problem with
  | some p => { st with messages := st.messages ++ [quoteIn utf8 a ++ p], failed := true }
  | none => st

/-- The code of a character constant's character: the whole UTF-8 character in a UTF-8 locale,
else its first byte; with a warning when more follows. -/
def constant (st : ProgramPrintf) (utf8 : Bool) (rest : List Char) : Nat × ProgramPrintf :=
  match rest with
  | [] => (0, st)
  | b :: more =>
    let (code, after) :=
      if utf8 then
        match (Text.decode (String.ofList rest)).toList with
        | c :: _ =>
          if c != Text.replacement then (c.toNat, rest.drop (Text.encode (String.singleton c)).length)
          else (b.toNat, more)
        | [] => (b.toNat, more)
      else (b.toNat, more)
    if after.isEmpty then (code, st)
    else
      let msg := "warning: " ++ String.ofList after ++
        ": character(s) following character constant have been ignored"
      (code, { st with messages := st.messages ++ [msg] })

/-- The next argument as a signed integer. -/
def signed (st : ProgramPrintf) (utf8 : Bool) : Int × ProgramPrintf :=
  let (a, st) := st.next
  match a.toList with
  | q :: rest =>
    if (q == '"' || q == '\'') && !rest.isEmpty then
      let (v, st) := st.constant utf8 rest
      (v, st)
    else
      let (v, used) := scanInteger 0 a.toList
      let (v, range) := clampSigned v
      (v, st.complainNumber utf8 a used range)
  | [] => (0, st)

/-- The next argument as an unsigned integer. -/
def unsigned (st : ProgramPrintf) (utf8 : Bool) : Nat × ProgramPrintf :=
  let (a, st) := st.next
  match a.toList with
  | q :: rest =>
    if (q == '"' || q == '\'') && !rest.isEmpty then st.constant utf8 rest
    else
      let (v, used) := scanInteger 0 a.toList
      let (v, range) := clampUnsigned v
      (v, st.complainNumber utf8 a used range)
  | [] => (0, st)

/-- The next argument as a `long double`. -/
def float (st : ProgramPrintf) (utf8 : Bool) : FloatValue × ProgramPrintf :=
  let (a, st) := st.next
  match a.toList with
  | q :: rest =>
    if (q == '"' || q == '\'') && !rest.isEmpty then
      let (v, st) := st.constant utf8 rest
      (.finite false v 0, st)
    else
      let (v, used, range) := scanFloat .extended a.toList
      (v, st.complainNumber utf8 a used range)
  | [] => (.finite false 0 0, st)

end ProgramPrintf

/-- The conversions allowed after each flag: a flag rules some letters out. -/
def allowedAfter (flags : List Char) (precision : Bool) : List Char :=
  let base := "aAcdeEfFgGiosuxX".toList
  let base := if flags.contains '\'' then base.filter (!"aAceEosxX".toList.contains ·) else base
  let base := if flags.contains '#' then base.filter (!"cdisu".toList.contains ·) else base
  let base := if flags.contains '0' then base.filter (!"cs".toList.contains ·) else base
  if precision then base.filter (· != 'c') else base

/-- One pass over the format. -/
def programPass (utf8 : Bool) : Nat → List Char → ProgramPrintf →
    Except (ProgramStop × ProgramPrintf) ProgramPrintf
  | 0, _, st => .ok st
  | _ + 1, [], st => .ok st
  | fuel + 1, c :: rest, st =>
    if c == '\\' then
      match programEscape utf8 false rest with
      | .ok (s, r) => programPass utf8 fuel r { st with out := st.out ++ s }
      | .error e => .error (e, st)
    else if c != '%' then programPass utf8 fuel rest { st with out := st.out.push c }
    else
      match rest with
      | '%' :: r => programPass utf8 fuel r { st with out := st.out.push '%' }
      | 'b' :: r =>
        if st.args.isEmpty then programPass utf8 fuel r st
        else
          let (a, st) := st.next
          match programBEscapes utf8 (a.length + 1) a.toList "" with
          | .ok s => programPass utf8 fuel r { st with out := st.out ++ s }
          | .error (e, s) => .error (e, { st with out := st.out ++ s })
      | 'q' :: r =>
        if st.args.isEmpty then programPass utf8 fuel r st
        else
          let (a, st) := st.next
          programPass utf8 fuel r { st with out := st.out ++ shellEscape utf8 a }
      | _ =>
        let flags := rest.takeWhile fun d => "'-+ #0I".toList.contains d
        let cs := rest.drop flags.length
        let sp : ConvSpec :=
          { left := flags.contains '-', zero := flags.contains '0', plus := flags.contains '+',
            space := flags.contains ' ', alt := flags.contains '#' }
        let (sp, st, cs) : ConvSpec × ProgramPrintf × List Char := match cs with
          | '*' :: r =>
            let (v, st) := st.signed utf8
            ({ sp with width := some v.natAbs, left := sp.left || v < 0 }, st, r)
          | _ =>
            let ds := cs.takeWhile Char.isDigit
            ({ sp with width := if ds.isEmpty then none else some (digitsValue 10 ds) }, st,
              cs.drop ds.length)
        let (sp, st, cs, hasPrec) : ConvSpec × ProgramPrintf × List Char × Bool := match cs with
          | '.' :: '*' :: r =>
            let (v, st) := st.signed utf8
            ({ sp with precision := if v < 0 then none else some v.toNat }, st, r, true)
          | '.' :: r =>
            let ds := r.takeWhile Char.isDigit
            ({ sp with precision := some (digitsValue 10 ds) }, st, r.drop ds.length, true)
          | _ => (sp, st, cs, false)
        let cs := cs.dropWhile fun d => "lLhjtz".toList.contains d
        let whole := c :: rest
        let directive := String.ofList (whole.take (whole.length - cs.length + 1))
        match cs with
        | conv :: r =>
          if !(allowedAfter flags hasPrec).contains conv then
            .error (.fail (directive ++ ": invalid conversion specification"), st)
          else
            let sp := { sp with conv := conv }
            let st := match conv with
              | 's' =>
                let (a, st) := st.next
                { st with out := st.out ++ padBlank sp (cutTo sp.precision a) }
              | 'c' =>
                let (a, st) := st.next
                { st with out := st.out ++ padBlank sp (String.singleton ((a.toList.head?).getD '\x00')) }
              | 'd' | 'i' =>
                let (v, st) := st.signed utf8
                { st with out := st.out ++ formatSigned sp v }
              | 'o' | 'u' | 'x' | 'X' =>
                let (v, st) := st.unsigned utf8
                { st with out := st.out ++ formatUnsigned sp v }
              | _ =>
                let (v, st) := st.float utf8
                { st with out := st.out ++ formatFloat .extended sp v }
            programPass utf8 fuel r st
        | [] => .error (.fail (directive ++ ": invalid conversion specification"), st)

/-- The `printf` program, started as `name`. -/
def printfProgram (name : String) (args : List String) : Sh Unit := do
  let args := if args.head? == some "--" then args.drop 1 else args
  let utf8 := utf8Locale (← getShell)
  match args with
  | [] => usageError name "missing operand"
  | fmt :: rest =>
    let finish (st : ProgramPrintf) (code : Nat) : Sh Unit := do
      for m in st.messages do say name m
      out st.out
      exitWith code
    let rec passes : Nat → ProgramPrintf → Sh Unit
      | 0, st => finish st (if st.failed then 1 else 0)
      | k + 1, st =>
        match programPass utf8 (fmt.length + 1) fmt.toList { st with took := 0 } with
        | .error (.cancel, st2) => finish { st2 with messages := st2.messages } 0
        | .error (.fail msg, st2) => finish { st2 with messages := st2.messages ++ [msg] } 1
        | .ok st2 =>
          if st2.took > 0 && !st2.args.isEmpty then passes k st2
          else
            let st2 := match st2.args with
              | a :: _ => { st2 with messages := st2.messages ++
                  ["warning: ignoring excess arguments, starting with " ++ quoteIn utf8 a] }
              | [] => st2
            finish st2 (if st2.failed then 1 else 0)
    passes (rest.length + 1) { args := rest }

/-- What `echo` writes for its arguments: leading words of the letters `n`, `e` and `E` are
options (no newline, escapes on, escapes off); the other arguments are joined by blanks. -/
def echoText (utf8 : Bool) (args : List String) : String :=
  let isOpt (a : String) : Bool :=
    a.length ≥ 2 && a.startsWith "-" && (a.drop 1).all fun c => c == 'n' || c == 'e' || c == 'E'
  let opts := args.takeWhile isOpt
  let rest := args.drop opts.length
  let flags := String.join opts
  let newline := !flags.contains 'n'
  let escapes := opts.foldl (fun e o => o.foldl (fun e c => if c == 'e' then true else if c == 'E' then false else e) e) false
  let text := " ".intercalate rest
  if escapes then
    match programBEscapes utf8 (text.length + 1) text.toList "" with
    | .ok s => if newline then s.push '\n' else s
    | .error (_, s) => s
  else if newline then text.push '\n' else text

/-- The `echo` program. -/
def echoProgram (args : List String) : Sh Unit := do
  out (echoText (utf8Locale (← getShell)) args)
  exitWith 0

end Fanout.Programs
