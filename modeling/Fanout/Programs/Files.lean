import Fanout.Programs.Basic
import Fanout.Posix.Builtins

/-!
# Programs on files and names

`cat` copies files to standard output, optionally numbering lines (`-n`, `-b`), squeezing
runs of blank lines (`-s`) and showing ends (`-E`), tabs (`-T`) and other control bytes (`-v`).
`touch`, `mkdir` and `rm` make and remove names; `tee` copies its input to files as well.
`basename`, `dirname` and `pwd` work on path texts.

A file is made with the mode `0666` (a directory `0777`) less the process's mask.
-/

namespace Fanout.Programs

open Fanout.Posix Fanout.Host

/-! ## `cat` -/

/-- How `cat -v` shows one byte: control bytes as `^X`, `DEL` as `^?`, and bytes above 127 as
`M-` and the byte below 128. A tab and a newline stay as they are. -/
def showByte (tabs : Bool) (c : Char) : String :=
  let n := c.toNat
  if c == '\n' then "\n"
  else if c == '\t' then (if tabs then "^I" else "\t")
  else
    let (lead, low) := if n ≥ 128 then ("M-", n - 128) else ("", n)
    if low < 32 then lead ++ "^" ++ String.singleton (Char.ofNat (low + 64))
    else if low == 127 then lead ++ "^?"
    else lead ++ String.singleton (Char.ofNat low)

/-- The options of one `cat` run. -/
structure CatStyle where
  number : Bool := false
  nonblank : Bool := false
  squeeze : Bool := false
  ends : Bool := false
  tabs : Bool := false
  nonprinting : Bool := false

/-- Where `cat` is between lines: the number of the next line, whether the last line was
blank, and whether a line is open. -/
structure CatPlace where
  next : Nat := 1
  lastBlank : Bool := false
  blanks : Nat := 0
  inLine : Bool := false

/-- A line number as `cat` writes it: right-aligned in six columns, then a tab. -/
def lineLabel (k : Nat) : String :=
  let t := toString k
  String.ofList (List.replicate (6 - t.length) ' ') ++ t ++ "\t"

/-- Copy one line (with its newline, if it has one) in a style. -/
def catLine (st : CatStyle) (pl : CatPlace) (line : List Char) (hasNewline : Bool) :
    String × CatPlace :=
  let blank := line.isEmpty && hasNewline && !pl.inLine
  if blank && st.squeeze && pl.lastBlank then ("", pl)
  else
    let numbered := !pl.inLine && (st.number && !st.nonblank || st.nonblank && !blank)
    let lead := if numbered then lineLabel pl.next else ""
    let body := if st.nonprinting then String.join (line.map (showByte st.tabs))
      else if st.tabs then String.join (line.map fun c => if c == '\t' then "^I" else String.singleton c)
      else String.ofList line
    let tail := if hasNewline then (if st.ends then "$\n" else "\n") else ""
    (lead ++ body ++ tail,
      { next := if numbered then pl.next + 1 else pl.next,
        lastBlank := if hasNewline then blank else pl.lastBlank,
        inLine := !hasNewline, blanks := pl.blanks })

/-- Copy a text in a style, line by line. -/
def catText (st : CatStyle) (pl : CatPlace) (s : String) : String × CatPlace :=
  let pieces := s.splitOn "\n"
  let count := pieces.length
  let (acc, pl) := (pieces.zip (List.range count)).foldl (fun (acc, pl) (piece, i) =>
    let last := i + 1 == count
    if last && piece.isEmpty then (acc, pl)
    else
      let (o, pl) := catLine st pl piece.toList (!last)
      (acc ++ o, pl)) ("", pl)
  (acc, pl)

/-- The `cat` program. -/
def catProgram (name : String) (args : List String) : Sh Unit := do
  let (opts, files) ← options name "AbeEnstTuv" true args
    [("show-all", 'A'), ("number-nonblank", 'b'), ("show-ends", 'E'), ("number", 'n'),
     ("squeeze-blank", 's'), ("show-tabs", 'T'), ("show-nonprinting", 'v')]
  let st := opts.foldl (fun (st : CatStyle) (c, _) =>
    match c with
    | 'A' => { st with nonprinting := true, ends := true, tabs := true }
    | 'b' => { st with nonblank := true }
    | 'e' => { st with nonprinting := true, ends := true }
    | 'E' => { st with ends := true }
    | 'n' => { st with number := true }
    | 's' => { st with squeeze := true }
    | 't' => { st with nonprinting := true, tabs := true }
    | 'T' => { st with tabs := true }
    | 'v' => { st with nonprinting := true }
    | _ => st) {}
  let plain := !(st.number || st.nonblank || st.squeeze || st.ends || st.tabs || st.nonprinting)
  let files := if files.isEmpty then ["-"] else files
  let mut ok := true
  let mut pl : CatPlace := {}
  for f in files do
    if ← endlessZeros f then
      emitForever (fun why => name ++ ": write error: " ++ why) (List.replicate 65536 0)
    match ← readOperand f with
    | .ok bs =>
      if plain then emit bs
      else
        let (o, pl2) := catText st pl (Text.ofBytes bs)
        pl := pl2
        out o
    | .error e =>
      say name (f ++ ": " ++ e.description)
      ok := false
  exitWith (if ok then 0 else 1)

/-! ## Making and removing names -/

/-- The absolute path an operand names from the working directory. -/
def operandPath (cwd f : String) : String := logicalPath cwd f

/-- The `touch` program: make each missing file empty (unless `-c`), and mark the others as
written now. -/
def touchProgram (name : String) (args : List String) : Sh Unit := do
  let (opts, files) ← options name "acmfhd:r:t:" true args
    [("no-create", 'c'), ("date", 'd'), ("no-dereference", 'h'), ("reference", 'r')]
  if files.isEmpty then usageError name "missing file operand"
  let mut ok := true
  for f in files do
    let w ← get
    match w.p.fs.resolve w.sh.cwd f with
    | .ok q =>
      match w.p.fs.node? q with
      | some n => modifyProc fun p => { p with fs := p.fs.put q n }
      | none => pure ()
    | .error .notFound =>
      if hasOpt opts 'c' then pure ()
      else
        match w.p.fs.resolveParent w.sh.cwd f with
        | .error .notFound =>
          let dirOk : Except OsError String := match (parts f).dropLast with
            | [] => .ok w.sh.cwd
            | ps => w.p.fs.resolve w.sh.cwd ((if isAbsolute f then "/" else "") ++ "/".intercalate ps)
          match dirOk with
          | .ok dir =>
            if w.p.fs.isDir "/" dir && w.p.fs.acceptsNames dir && !Fs.namesDirectory f then
              let target := joinPath dir ((fileName f).getD f)
              modifyProc fun p => { p with fs := p.fs.put target (.file "" (0o666 - (0o666 &&& w.sh.umask))) }
            else
              say name ("cannot touch " ++ (← quoted f) ++ ": " ++
                (if Fs.namesDirectory f && w.p.fs.isDir "/" dir then OsError.isDir else OsError.notFound).description)
              ok := false
          | .error e =>
            say name ("cannot touch " ++ (← quoted f) ++ ": " ++ e.description)
            ok := false
        | _ =>
          say name ("cannot touch " ++ (← quoted f) ++ ": " ++ OsError.notFound.description)
          ok := false
    | .error e =>
      say name ("cannot touch " ++ (← quoted f) ++ ": " ++ e.description)
      ok := false
  exitWith (if ok then 0 else 1)

/-- The `mkdir` program; with `-p` the missing parents are made too and an existing directory
is no error. -/
def mkdirProgram (name : String) (args : List String) : Sh Unit := do
  let (opts, dirs) ← options name "pvm:" true args
    [("parents", 'p'), ("verbose", 'v'), ("mode", 'm')]
  if dirs.isEmpty then usageError name "missing operand"
  let mut ok := true
  for d in dirs do
    let w ← get
    let r := if hasOpt opts 'p' then w.p.fs.mkdirAll w.sh.cwd d else w.p.fs.mkdir w.sh.cwd d
    match r with
    | .ok fs2 =>
      modifyProc fun p => { p with fs := fs2 }
      if hasOpt opts 'v' then out (name ++ ": created directory " ++ (← quoted d) ++ "\n")
    | .error e =>
      say name ("cannot create directory " ++ (← quoted d) ++ ": " ++ e.description)
      ok := false
  exitWith (if ok then 0 else 1)

/-- The `rm` program: `-r` removes directories with what they hold, `-f` is silent about
missing files. -/
def rmProgram (name : String) (args : List String) : Sh Unit := do
  let (opts, files) ← options name "fiIrRdv" true args
    [("force", 'f'), ("recursive", 'r'), ("dir", 'd'), ("verbose", 'v')]
  let force := hasOpt opts 'f'
  let recursive := hasOpt opts 'r' || hasOpt opts 'R'
  if files.isEmpty then
    if force then exitWith 0 else usageError name "missing operand"
  let mut ok := true
  for f in files do
    let w ← get
    match w.p.fs.resolveParent w.sh.cwd f with
    | .ok q =>
      match w.p.fs.node? q with
      | some (.dir _) =>
        if recursive then modifyProc fun p => { p with fs := p.fs.removeTree q }
        else
          say name ("cannot remove " ++ (← quoted f) ++ ": Is a directory")
          ok := false
      | some _ =>
        if w.p.fs.acceptsNames (parentPath q) then modifyProc fun p => { p with fs := p.fs.remove q }
        else
          say name ("cannot remove " ++ (← quoted f) ++ ": Permission denied")
          ok := false
      | none => pure ()
    | .error e =>
      if !(force && e == .notFound) then
        say name ("cannot remove " ++ (← quoted f) ++ ": " ++ e.description)
        ok := false
  exitWith (if ok then 0 else 1)

/-- The `tee` program: standard input to standard output and to each file (`-a` appends). -/
def teeProgram (name : String) (args : List String) : Sh Unit := do
  let (opts, files) ← options name "aip" true args
    [("append", 'a'), ("ignore-interrupts", 'i')]
  let data ← readStdin
  let mut ok := true
  for f in files do
    let w ← get
    let path := operandPath w.sh.cwd f
    let old := match w.p.fs.node? path with
      | some (.file c _) => if hasOpt opts 'a' then c else ""
      | _ => ""
    if w.p.fs.isDir "/" (parentPath path) && w.p.fs.acceptsNames (parentPath path) && !w.p.fs.isDir "/" path then
      modifyProc fun p => { p with fs := p.fs.put path (.file (old ++ Text.ofBytes data) 0o644) }
    else
      say name (f ++ ": " ++ (if w.p.fs.isDir "/" path then OsError.isDir else OsError.notFound).description)
      ok := false
  emit data
  exitWith (if ok then 0 else 1)

/-! ## Names of paths -/

/-- The last name of a path, trailing slashes dropped; a path of slashes only is `/`. -/
def baseName (p : String) : String :=
  if p.isEmpty then ""
  else
    let trimmed := (p.toList.reverse.dropWhile (· == '/')).reverse
    if trimmed.isEmpty then "/"
    else String.ofList ((trimmed.reverse.takeWhile (· != '/')).reverse)

/-- The last name of a path without `suffix`, unless the name is the suffix itself. -/
def stripSuffix (name suffix : String) : String :=
  if !suffix.isEmpty && name != suffix && name.endsWith suffix then
    (name.take (name.length - suffix.length)).toString
  else name

/-- The directory part of a path: `.` when there is none, `/` for the root. -/
def dirName (p : String) : String :=
  let cs := p.toList
  let trimmed := (cs.reverse.dropWhile (· == '/')).reverse
  if trimmed.isEmpty then (if cs.isEmpty then "." else "/")
  else
    let dir := (trimmed.reverse.dropWhile (· != '/')).reverse
    if dir.isEmpty then "."
    else
      let dir := (dir.reverse.dropWhile (· == '/')).reverse
      if dir.isEmpty then "/" else String.ofList dir

/-- The `basename` program: `basename name [suffix]`, or every operand with `-a` or `-s`. -/
def basenameProgram (name : String) (args : List String) : Sh Unit := do
  let (opts, ops) ← options name "as:z" true args
    [("multiple", 'a'), ("suffix", 's'), ("zero", 'z')]
  let ending := if hasOpt opts 'z' then "\x00" else "\n"
  match optArg opts 's', hasOpt opts 'a', ops with
  | _, _, [] => usageError name "missing operand"
  | some suffix, _, _ =>
    out (String.join (ops.map fun o => stripSuffix (baseName o) suffix ++ ending))
    exitWith 0
  | none, true, _ =>
    out (String.join (ops.map fun o => baseName o ++ ending))
    exitWith 0
  | none, false, [o] =>
    out (baseName o ++ ending)
    exitWith 0
  | none, false, [o, suffix] =>
    out (stripSuffix (baseName o) suffix ++ ending)
    exitWith 0
  | none, false, _ :: _ :: extra :: _ => usageError name ("extra operand " ++ (← quoted extra))

/-- The `dirname` program. -/
def dirnameProgram (name : String) (args : List String) : Sh Unit := do
  let (opts, ops) ← options name "z" true args [("zero", 'z')]
  let ending := if hasOpt opts 'z' then "\x00" else "\n"
  if ops.isEmpty then usageError name "missing operand"
  out (String.join (ops.map fun o => dirName o ++ ending))
  exitWith 0

/-- The `pwd` program: the working directory with links resolved, or as the shell spelled it
with `-L` when `PWD` names it. -/
def pwdProgram (name : String) (args : List String) : Sh Unit := do
  let (opts, _) ← options name "LP" true args [("logical", 'L'), ("physical", 'P')]
  let w ← get
  let physical := physicalPath w.p.fs w.sh.cwd
  let logical := match w.sh.get? "PWD" with
    | some p =>
      if isAbsolute p && !(parts p).contains ".." && physicalPath w.p.fs p == physical then p
      else physical
    | none => physical
  out ((if physicalOption opts || !hasOpt opts 'L' then physical else logical) ++ "\n")
  exitWith 0

end Fanout.Programs
