import Fanout.Programs.Basic
import Fanout.Programs.Listing
import Fanout.Programs.Lines

/-!
# Programs that change files and names: `chmod`, `ln`, `cp`, `mv`, `rmdir`, `unlink`,
# `truncate` and `dd`

`chmod` sets permission bits from an octal number or from symbolic clauses such as `u+x,go-w`.
`ln` makes symbolic links, or hard links, which here are copies made at once. `cp` copies files
(and with `-r` whole trees), `mv` renames them. `truncate` sets the size of files, cutting or
padding with zero bytes, and `dd` copies a number of blocks from one file to another.
-/

namespace Fanout.Programs

open Fanout.Posix Fanout.Host

/-! ## Modes -/

/-- How one clause of a symbolic mode takes its bits: as listed, as listed with `X` (execute
only where some execute bit is on or on a directory), or copied from a class of the file's
own bits (`u`, `g`, `o`). -/
inductive ModeSource where
  | listed
  | listedX
  | copied
  deriving BEq

/-- One change of a mode: the operator, where the bits come from, the bits the clause names
(`affected`, zero when no class was named), the bits it sets, and the bits it mentions. -/
structure ModeChange where
  op : Char
  source : ModeSource
  affected : Nat
  value : Nat
  mentioned : Nat

/-- Read a mode: an octal number up to `07777`, or comma-separated clauses `[ugoa]*` followed
by one or more of `+`, `-`, `=` each with letters of `rwxXst` or one of `ugo`. -/
def readMode (s : String) : Option (List ModeChange) :=
  let cs := s.toList
  if cs.head?.any fun c => '0' ≤ c && c < '8' then
    if !cs.all (fun c => '0' ≤ c && c < '8') then none
    else
      let v := cs.foldl (fun v c => v * 8 + (c.toNat - 48)) 0
      if v > 0o7777 then none
      else
        let mentioned := if cs.length < 5 then (v &&& 0o6000) ||| 0o1777 else 0o7777
        some [⟨'=', .listed, 0o7777, v, mentioned⟩]
  else
    let rec clauses : Nat → List Char → List ModeChange → Option (List ModeChange)
      | 0, _, _ => none
      | fuel + 1, cs, acc =>
        let who := cs.takeWhile fun c => "ugoa".toList.contains c
        let affected := who.foldl (fun a c => a ||| match c with
          | 'u' => 0o4700
          | 'g' => 0o2070
          | 'o' => 0o1007
          | _ => 0o7777) 0
        let rec ops : Nat → List Char → List ModeChange → Option (List ModeChange × List Char)
          | 0, cs, acc => some (acc, cs)
          | k + 1, cs, acc =>
            match cs with
            | op :: rest =>
              if op == '+' || op == '-' || op == '=' then
                let (source, value, rest) : ModeSource × Nat × List Char := match rest with
                  | 'u' :: r => (.copied, 0o700, r)
                  | 'g' :: r => (.copied, 0o070, r)
                  | 'o' :: r => (.copied, 0o007, r)
                  | _ =>
                    let letters := rest.takeWhile fun c => "rwxXst".toList.contains c
                    let value := letters.foldl (fun v c => v ||| match c with
                      | 'r' => 0o444
                      | 'w' => 0o222
                      | 'x' => 0o111
                      | 's' => 0o6000
                      | 't' => 0o1000
                      | _ => 0) 0
                    (if letters.contains 'X' then .listedX else .listed, value, rest.drop letters.length)
                let mentioned := if affected != 0 then affected &&& value else value
                ops k rest (acc ++ [⟨op, source, affected, value, mentioned⟩])
              else some (acc, cs)
            | [] => some (acc, [])
        match ops (cs.length + 1) (cs.drop who.length) [] with
        | some (changes, rest) =>
          if changes.isEmpty then none
          else
            match rest with
            | [] => some (acc ++ changes)
            | ',' :: more => clauses fuel more (acc ++ changes)
            | _ => none
        | none => none
    clauses (cs.length + 1) cs []

/-- Apply mode changes to the bits of a file (a directory when `dir`) under a umask. A change
that names no class takes every class but the umask's bits. -/
def applyMode (changes : List ModeChange) (dir : Bool) (umask : Nat) (old : Nat) : Nat :=
  changes.foldl (fun m ch =>
    let kept := (if dir then 0o6000 else 0) &&& (0o7777 - (ch.mentioned &&& 0o7777))
    let value := match ch.source with
      | .listed => ch.value
      | .listedX => ch.value ||| (if (m &&& 0o111) != 0 || dir then 0o111 else 0)
      | .copied =>
        let v := ch.value &&& m
        (if v &&& 0o444 != 0 then 0o444 else 0) ||| (if v &&& 0o222 != 0 then 0o222 else 0) |||
          (if v &&& 0o111 != 0 then 0o111 else 0)
    let value := value &&& (if ch.affected != 0 then ch.affected else 0o7777 - umask) &&&
      (0o7777 - kept)
    match ch.op with
    | '=' =>
      let preserved := (if ch.affected != 0 then 0o7777 - ch.affected else 0) ||| kept
      (m &&& preserved) ||| value
    | '+' => m ||| value
    | _ => m &&& (0o7777 - value)) (old % 0o10000)

/-- A node with its permission bits set. -/
def setMode (n : Node) (mode : Nat) : Node :=
  match n with
  | .dir _ => .dir mode
  | .file c _ => .file c mode
  | .program p _ => .program p mode
  | other => other

/-- The `chmod` program. -/
def chmodProgram (name : String) (args : List String) : Sh Unit := do
  -- A mode such as `-w` looks like an option; it is taken as the mode.
  let isModeWord (a : String) : Bool :=
    a.length > 1 && a.startsWith "-" && (a.drop 1).all fun c => "rwxXstugoa=+-,".toList.contains c
  let modeWord := args.find? isModeWord
  let rest := match modeWord with
    | some m => args.erase m
    | none => args
  let (opts, ops) ← options name "cfvR" true rest
    [("changes", 'c'), ("silent", 'f'), ("quiet", 'f'), ("verbose", 'v'), ("recursive", 'R')]
  let (modeText, files) := match modeWord with
    | some m => (m, ops)
    | none => (ops.headD "", ops.drop 1)
  if ops.isEmpty && modeWord.isNone then usageError name "missing operand"
  let changes ← match readMode modeText with
    | some c => pure c
    | none => usageError name ("invalid mode: " ++ (← quoted modeText))
  if files.isEmpty then usageError name ("missing operand after " ++ (← quoted modeText))
  let umask := (← getShell).umask
  let symbolic := changes.any fun ch => ch.affected == 0
  let mut ok := true
  for f in files do
    let w ← get
    match w.p.fs.resolve w.sh.cwd f with
    | .error e =>
      if !hasOpt opts 'f' then say name ("cannot access " ++ (← quoted f) ++ ": " ++ e.description)
      ok := false
    | .ok q =>
      let targets := if hasOpt opts 'R' then
          q :: (w.p.fs.nodes.filterMap fun (p, _) => if p.startsWith (q ++ "/") then some p else none)
        else [q]
      for t in targets do
        let w ← get
        match w.p.fs.node? t with
        | some n =>
          if !(n matches .link _) then
            let dir := n matches .dir _
            let newMode := applyMode changes dir umask n.mode
            modifyProc fun p => { p with fs := p.fs.put t (setMode n newMode) }
            let shownName := if t == q then f else f ++ (t.drop q.length).toString
            if hasOpt opts 'v' || (hasOpt opts 'c' && newMode != n.mode % 0o10000) then
              let octal (m : Nat) : String :=
                let d := String.ofList (Nat.toDigits 8 m)
                fill (4 - d.length) '0' ++ d
              let shownQ ← quoted shownName
              out ((if newMode != n.mode % 0o10000 then
                  "mode of " ++ shownQ ++ " changed from " ++ octal (n.mode % 0o10000) ++
                    " (" ++ (permissionText n.mode) ++ ") to " ++ octal newMode ++ " (" ++
                    permissionText newMode ++ ")"
                else "mode of " ++ shownQ ++ " retained as " ++ octal newMode ++ " (" ++
                    permissionText newMode ++ ")") ++ "\n")
            if symbolic then
              let naive := applyMode changes dir 0 n.mode
              if newMode &&& (0o7777 - naive) != 0 then
                say name (shownName ++ ": new permissions are " ++ permissionText newMode ++
                  ", not " ++ permissionText naive)
                ok := false
        | none => pure ()
  exitWith (if ok then 0 else 1)

/-! ## Links -/

/-- A name quoted as the file programs quote names in messages. -/
def nameQuoted (s : String) : String :=
  "'" ++ (s.replace "'" "'\\''") ++ "'"

/-- Where a new name goes: `dest`, or inside it with the last name of `source` when `dest` is
a directory. -/
def placeIn (fs : Fs) (cwd source dest : String) (intoDir : Bool) : String :=
  if intoDir && fs.isDir cwd dest then
    (if dest.endsWith "/" then dest else dest ++ "/") ++ (fileName source).getD source
  else dest

/-- The `ln` program. -/
def lnProgram (name : String) (args : List String) : Sh Unit := do
  let (opts, ops) ← options name "fnsTvr" true args
    [("force", 'f'), ("no-dereference", 'n'), ("symbolic", 's'), ("no-target-directory", 'T'),
     ("verbose", 'v'), ("relative", 'r')]
  let symbolic := hasOpt opts 's'
  let w ← get
  let (pairs, ok0) ← match ops with
    | [] => usageError name "missing file operand"
    | [t] => pure ([(t, (fileName t).getD t)], true)
    | [t, d] =>
      pure ([(t, placeIn w.p.fs w.sh.cwd t d (!hasOpt opts 'T' && !(hasOpt opts 'n' &&
        (w.p.fs.lookup w.sh.cwd d matches .ok (_, .link _)))))], true)
    | _ =>
      let dir := ops.getLastD ""
      if !w.p.fs.isDir w.sh.cwd dir then
        say name ("target " ++ nameQuoted dir ++ " is not a directory")
        exitWith 1
      pure (ops.dropLast.map fun t => (t, placeIn w.p.fs w.sh.cwd t dir true), true)
  let mut ok := ok0
  for (t, d) in pairs do
    let w ← get
    let fs := w.p.fs
    -- The source of a hard link must exist, and may not be a directory.
    let source : Option Node ←
      if symbolic then pure (some (.link t))
      else
        match fs.lookup w.sh.cwd t with
        | .ok (_, .dir _) =>
          say name (t ++ ": hard link not allowed for directory")
          ok := false
          pure none
        | .ok (_, n) => pure (some n)
        | .error e =>
          say name ("failed to access " ++ nameQuoted t ++ ": " ++ e.description)
          ok := false
          pure none
    match source with
    | none => pure ()
    | some node =>
      let failure (e : OsError) : Sh Unit := do
        say name ((if symbolic then "failed to create symbolic link " ++ nameQuoted d
          else "failed to create hard link " ++ nameQuoted d ++
            (if e == .exists then "" else " => " ++ nameQuoted t)) ++ ": " ++ e.description)
      match fs.lookup w.sh.cwd d with
      | .ok (q, existing) =>
        if !hasOpt opts 'f' then
          failure .exists
          ok := false
        else if existing matches .dir _ then
          say name (nameQuoted d ++ ": cannot overwrite directory")
          ok := false
        else
          modifyProc fun p => { p with fs := p.fs.put q node }
          if hasOpt opts 'v' then out (nameQuoted d ++ (if symbolic then " -> " else " => ") ++ nameQuoted t ++ "\n")
      | .error _ =>
        match fs.createPath w.sh.cwd d with
        | .ok q =>
          modifyProc fun p => { p with fs := p.fs.put q node }
          if hasOpt opts 'v' then out (nameQuoted d ++ (if symbolic then " -> " else " => ") ++ nameQuoted t ++ "\n")
        | .error e =>
          failure e
          ok := false
  exitWith (if ok then 0 else 1)

/-! ## Copying and moving -/

/-- Copy the node at `src` and, for a directory, all below it, to `dst` (absolute paths);
links below are copied as links. New files get the source's bits less the umask unless
`keep`. -/
def copyTree (fs : Fs) (src dst : String) (keep : Bool) (umask : Nat) : Fs :=
  let strip (n : Node) : Node := if keep then n else setMode n (n.mode &&& (0o7777 - umask))
  let below := fs.nodes.filter fun (p, _) => p.startsWith (src ++ "/")
  let fs := match fs.node? src with
    | some n => fs.put dst (strip n)
    | none => fs
  below.foldl (fun fs (p, n) => fs.put (dst ++ (p.drop src.length).toString) (strip n)) fs

/-- The `cp` program. -/
def cpProgram (name : String) (args : List String) : Sh Unit := do
  let (opts, ops) ← options name "adfiLnPprRTtv:" true args
    [("archive", 'a'), ("force", 'f'), ("interactive", 'i'), ("dereference", 'L'),
     ("no-clobber", 'n'), ("no-dereference", 'P'), ("preserve", 'p'), ("recursive", 'r'),
     ("no-target-directory", 'T'), ("verbose", 'v')]
  let recursive := hasOpt opts 'r' || hasOpt opts 'R' || hasOpt opts 'a'
  let keep := hasOpt opts 'p' || hasOpt opts 'a'
  let w ← get
  let pairs ← match ops with
    | [] => usageError name "missing file operand"
    | [s] => usageError name ("missing destination file operand after " ++ nameQuoted s)
    | [s, d] => pure [(s, placeIn w.p.fs w.sh.cwd s d (!hasOpt opts 'T'))]
    | _ =>
      let dir := ops.getLastD ""
      if !w.p.fs.isDir w.sh.cwd dir then
        say name ("target " ++ nameQuoted dir ++ " is not a directory")
        exitWith 1
      pure (ops.dropLast.map fun s => (s, placeIn w.p.fs w.sh.cwd s dir true))
  let umask := w.sh.umask
  let mut ok := true
  for (s, d) in pairs do
    let w ← get
    let fs := w.p.fs
    let found := if recursive && !hasOpt opts 'L' then fs.lookup w.sh.cwd s
      else match fs.resolve w.sh.cwd s with
        | .ok q => match fs.node? q with
          | some n => .ok (q, n)
          | none => .error .notFound
        | .error e => .error e
    match found with
    | .error e =>
      say name ("cannot stat " ++ nameQuoted s ++ ": " ++ e.description)
      ok := false
    | .ok (q, n) =>
      if n matches .dir _ && !recursive then
        say name ("-r not specified; omitting directory " ++ nameQuoted s)
        ok := false
      else
        match fs.resolve w.sh.cwd d with
        | .ok dq =>
          if dq == q then
            say name (nameQuoted s ++ " and " ++ nameQuoted d ++ " are the same file")
            ok := false
          else if dq.startsWith (q ++ "/") then
            say name ("cannot copy a directory, " ++ nameQuoted s ++ ", into itself, " ++ nameQuoted d)
            ok := false
          else if hasOpt opts 'n' then pure ()
          else
            match fs.node? dq, n with
            | some (.dir _), .dir _ =>
              modifyProc fun p => { p with fs := copyTree p.fs q dq keep umask }
            | some (.dir _), _ =>
              say name ("cannot overwrite directory " ++ nameQuoted d ++ " with non-directory")
              ok := false
            | some old, .file c m =>
              -- An existing file keeps its own bits.
              modifyProc fun p => { p with fs := p.fs.put dq (.file c (if keep then m else old.mode)) }
            | _, _ => modifyProc fun p => { p with fs := copyTree p.fs q dq keep umask }
            if hasOpt opts 'v' then out (nameQuoted s ++ " -> " ++ nameQuoted d ++ "\n")
        | .error _ =>
          match fs.createPath w.sh.cwd d with
          | .ok dq =>
            if dq.startsWith (q ++ "/") then
              say name ("cannot copy a directory, " ++ nameQuoted s ++ ", into itself, " ++ nameQuoted d)
              ok := false
            else
              modifyProc fun p => { p with fs := copyTree p.fs q dq keep umask }
              if hasOpt opts 'v' then out (nameQuoted s ++ " -> " ++ nameQuoted d ++ "\n")
          | .error e =>
            say name ("cannot create regular file " ++ nameQuoted d ++ ": " ++ e.description)
            ok := false
  exitWith (if ok then 0 else 1)

/-- Move the node at `src` and all below it to `dst` (absolute paths). -/
def moveTree (fs : Fs) (src dst : String) : Fs :=
  let moved := fs.nodes.filterMap fun (p, n) =>
    if p == src then some (dst, n)
    else if p.startsWith (src ++ "/") then some (dst ++ (p.drop src.length).toString, n)
    else none
  let fs := (fs.removeTree dst).removeTree src
  moved.foldl (fun fs (p, n) => fs.put p n) fs

/-- The `mv` program. -/
def mvProgram (name : String) (args : List String) : Sh Unit := do
  let (opts, ops) ← options name "finTuv" true args
    [("force", 'f'), ("interactive", 'i'), ("no-clobber", 'n'), ("no-target-directory", 'T'),
     ("update", 'u'), ("verbose", 'v')]
  let w ← get
  let pairs ← match ops with
    | [] => usageError name "missing file operand"
    | [s] => usageError name ("missing destination file operand after " ++ nameQuoted s)
    | [s, d] => pure [(s, placeIn w.p.fs w.sh.cwd s d (!hasOpt opts 'T'))]
    | _ =>
      let dir := ops.getLastD ""
      if !w.p.fs.isDir w.sh.cwd dir then
        say name ("target " ++ nameQuoted dir ++ " is not a directory")
        exitWith 1
      pure (ops.dropLast.map fun s => (s, placeIn w.p.fs w.sh.cwd s dir true))
  let mut ok := true
  for (s, d) in pairs do
    let w ← get
    let fs := w.p.fs
    match fs.lookup w.sh.cwd s with
    | .error e =>
      say name ("cannot stat " ++ nameQuoted s ++ ": " ++ e.description)
      ok := false
    | .ok (q, n) =>
      let target : Except OsError (String × Option Node) :=
        match fs.lookup w.sh.cwd d with
        | .ok (dq, old) => .ok (dq, some old)
        | .error _ =>
          match fs.createPath w.sh.cwd d with
          | .ok dq => .ok (dq, none)
          | .error e => .error e
      match target with
      | .error e =>
        say name ("cannot move " ++ nameQuoted s ++ " to " ++ nameQuoted d ++ ": " ++ e.description)
        ok := false
      | .ok (dq, old) =>
        if dq == q then
          say name (nameQuoted s ++ " and " ++ nameQuoted d ++ " are the same file")
          ok := false
        else if dq.startsWith (q ++ "/") then
          say name ("cannot move " ++ nameQuoted s ++ " to a subdirectory of itself, " ++ nameQuoted d)
          ok := false
        else
          match old, n with
          | some (.dir _), .dir _ =>
            if !(fs.children dq).isEmpty then
              say name ("cannot move " ++ nameQuoted s ++ " to " ++ nameQuoted d ++ ": Directory not empty")
              ok := false
            else modifyProc fun p => { p with fs := moveTree p.fs q dq }
          | some (.dir _), _ =>
            say name ("cannot overwrite directory " ++ nameQuoted d ++ " with non-directory")
            ok := false
          | some _, .dir _ =>
            say name ("cannot overwrite non-directory " ++ nameQuoted d ++ " with directory " ++ nameQuoted s)
            ok := false
          | some _, _ =>
            if !hasOpt opts 'n' then
              modifyProc fun p => { p with fs := moveTree p.fs q dq }
              if hasOpt opts 'v' then out ("renamed " ++ nameQuoted s ++ " -> " ++ nameQuoted d ++ "\n")
          | none, _ =>
            modifyProc fun p => { p with fs := moveTree p.fs q dq }
            if hasOpt opts 'v' then out ("renamed " ++ nameQuoted s ++ " -> " ++ nameQuoted d ++ "\n")
  exitWith (if ok then 0 else 1)

/-- The `rmdir` program: remove empty directories, and with `-p` their parents named too. -/
def rmdirProgram (name : String) (args : List String) : Sh Unit := do
  let (opts, ops) ← options name "pv" true args
    [("parents", 'p'), ("verbose", 'v'), ("ignore-fail-on-non-empty", Char.ofNat 1)]
  if ops.isEmpty then usageError name "missing operand"
  let mut ok := true
  for o in ops do
    let chain := if hasOpt opts 'p' then
        let ps := parts o
        (List.range ps.length).reverse.map fun i =>
          (if isAbsolute o then "/" else "") ++ "/".intercalate (ps.take (i + 1))
      else [o]
    let mut go := true
    for d in chain do
      if go then
        let w ← get
        if hasOpt opts 'v' then out (name ++ ": removing directory, " ++ nameQuoted d ++ "\n")
        match w.p.fs.lookup w.sh.cwd d with
        | .ok (q, .dir _) =>
          if (w.p.fs.children q).isEmpty then modifyProc fun p => { p with fs := p.fs.remove q }
          else
            if !hasOpt opts (Char.ofNat 1) then
              say name ("failed to remove " ++ nameQuoted d ++ ": Directory not empty")
              ok := false
            go := false
        | .ok _ =>
          say name ("failed to remove " ++ nameQuoted d ++ ": Not a directory")
          ok := false
          go := false
        | .error e =>
          say name ("failed to remove " ++ nameQuoted d ++ ": " ++ e.description)
          ok := false
          go := false
  exitWith (if ok then 0 else 1)

/-- The `unlink` program: remove one name that is not a directory. -/
def unlinkProgram (name : String) (args : List String) : Sh Unit := do
  let (_, ops) ← options name "" true args
  match ops with
  | [] => usageError name "missing operand"
  | _ :: extra :: _ => usageError name ("extra operand " ++ (← quoted extra))
  | [f] =>
    let w ← get
    match w.p.fs.lookup w.sh.cwd f with
    | .ok (_, .dir _) =>
      say name ("cannot unlink " ++ nameQuoted f ++ ": Is a directory")
      exitWith 1
    | .ok (q, _) =>
      modifyProc fun p => { p with fs := p.fs.remove q }
      exitWith 0
    | .error e =>
      say name ("cannot unlink " ++ nameQuoted f ++ ": " ++ e.description)
      exitWith 1

/-! ## Sizes -/

/-- Read a size as `truncate` does: an optional operator (`+`, `-`, `<`, `>`, `/`, `%`) and a
count with a multiplier suffix. -/
def readSizeSpec (s : String) : Option (Option Char × Nat) :=
  let (op, rest) := match s.toList with
    | c :: r => if "+-<>/%".toList.contains c then (some c, String.ofList r) else (none, s)
    | [] => (none, s)
  let digits := rest.toList.takeWhile Char.isDigit
  if digits.isEmpty then none
  else
    let suffix := String.ofList (rest.toList.drop digits.length)
    let mult := if suffix.isEmpty then some 1 else countSuffix suffix
    mult.map fun m => (op, digitsValue 10 digits * m)

/-- The `truncate` program. -/
def truncateProgram (name : String) (args : List String) : Sh Unit := do
  let (opts, files) ← options name "cos:r:" true args
    [("no-create", 'c'), ("io-blocks", 'o'), ("size", 's'), ("reference", 'r')]
  if !hasOpt opts 's' && !hasOpt opts 'r' then
    usageError name "you must specify either '--size' or '--reference'"
  if files.isEmpty then usageError name "missing file operand"
  let w ← get
  let refSize : Option Nat ← match optArg opts 'r' with
    | some r =>
      match w.p.fs.stat w.sh.cwd r with
      | .ok n => pure (some n.size)
      | .error e =>
        say name ("cannot stat " ++ nameQuoted r ++ ": " ++ e.description)
        exitWith 1
    | none => pure none
  let spec ← match optArg opts 's' with
    | some v =>
      match readSizeSpec v with
      | some sp => pure (some sp)
      | none =>
        say name ("Invalid number: " ++ (← quoted v))
        exitWith 1
    | none => pure none
  let mut ok := true
  for f in files do
    let w ← get
    let existing := match w.p.fs.resolve w.sh.cwd f with
      | .ok q => (w.p.fs.node? q).map (q, ·)
      | .error _ => none
    let place : Except OsError (String × String × Nat) := match existing with
      | some (q, .file c m) => .ok (q, c, m)
      | some (_, .dir _) => .error .isDir
      | some (q, _) => .ok (q, "", 0o644)
      | none =>
        match w.p.fs.createPath w.sh.cwd f with
        | .ok q => .ok (q, "", 0o666 &&& (0o7777 - w.sh.umask))
        | .error e => .error e
    match place with
    | .error e =>
      if !(hasOpt opts 'c' && existing.isNone) then
        say name ("cannot open " ++ nameQuoted f ++ " for writing: " ++ e.description)
        ok := false
    | .ok (q, content, mode) =>
      if hasOpt opts 'c' && existing.isNone then pure ()
      else
        let old := content.length
        let base := refSize.getD old
        let size := match spec with
          | some (some '+', k) => base + k
          | some (some '-', k) => base - k
          | some (some '<', k) => min old k
          | some (some '>', k) => max old k
          | some (some '/', k) => if k == 0 then old else old / k * k
          | some (some '%', k) => if k == 0 then old else (old + k - 1) / k * k
          | some (_, k) => k
          | none => base
        let newContent := if size ≤ old then (content.take size).toString
          else content ++ fill (size - old) (Char.ofNat 0)
        modifyProc fun p => { p with fs := p.fs.put q (.file newContent mode) }
  exitWith (if ok then 0 else 1)

/-! ## `dd` -/

/-- A block size of `dd`: a number with an optional multiplier (`c` 1, `w` 2, `b` 512, `kB`
1000, `K` 1024, and so on), several joined by `x` multiplied together. -/
def readBlockSize (s : String) : Option Nat :=
  (s.splitOn "x").foldlM (fun acc piece =>
    let digits := piece.toList.takeWhile Char.isDigit
    if digits.isEmpty then none
    else
      let suffix := String.ofList (piece.toList.drop digits.length)
      let mult := match suffix with
        | "" | "c" => some 1
        | "w" => some 2
        | _ => countSuffix suffix
      mult.map fun m => acc * (digitsValue 10 digits * m)) 1

/-- The `dd` program. -/
def ddProgram (name : String) (args : List String) : Sh Unit := do
  let mut settings : List (String × String) := []
  for a in args do
    match a.splitOn "=" with
    | key :: value :: more => settings := settings ++ [(key, "=".intercalate (value :: more))]
    | _ =>
      say name ("unrecognized operand " ++ (← quoted a))
      tryHelp name
      exitWith 1
  let number (key : String) : Sh (Option Nat) := do
    match settings.lookup key with
    | some v =>
      match readBlockSize v with
      | some n => pure (some n)
      | none =>
        say name ("invalid number: " ++ (← quoted v))
        exitWith 1
    | none => pure none
  for (k, _) in settings do
    if not (["if", "of", "bs", "ibs", "obs", "count", "skip", "seek", "conv", "status", "iflag",
        "oflag", "cbs"].contains k) then
      say name ("unrecognized operand " ++ (← quoted (k ++ "=" ++ ((settings.lookup k).getD ""))))
      tryHelp name
      exitWith 1
  let bs ← number "bs"
  let ibs := bs.getD ((← number "ibs").getD 512)
  let obs := bs.getD ((← number "obs").getD 512)
  let count ← number "count"
  let skip := (← number "skip").getD 0
  let seek := (← number "seek").getD 0
  let convs := ((settings.lookup "conv").getD "").splitOn ","
  let status := (settings.lookup "status").getD ""
  let input ← match settings.lookup "if" with
    | some f =>
      if ← endlessZeros f then
        match count with
        | some c => pure (List.replicate ((skip + c) * ibs) 0)
        | none => throw .exhausted
      else
        match ← readOperand f with
        | .ok bs => pure bs
        | .error e =>
          say name ("failed to open " ++ (← quoted f) ++ ": " ++ e.description)
          exitWith 1
    | none => readStdin
  let data := input.drop (skip * ibs)
  let data := match count with
    | some c => data.take (c * ibs)
    | none => data
  let data := if convs.contains "ucase" then data.map fun b => if 97 ≤ b && b ≤ 122 then b - 32 else b
    else if convs.contains "lcase" then data.map fun b => if 65 ≤ b && b ≤ 90 then b + 32 else b
    else data
  let fullIn := data.length / ibs
  let partIn := if data.length % ibs == 0 then 0 else 1
  let fullOut := data.length / obs
  let partOut := if data.length % obs == 0 then 0 else 1
  match settings.lookup "of" with
  | some f =>
    let w ← get
    match w.p.fs.createPath w.sh.cwd f with
    | .ok q =>
      let old := match w.p.fs.node? q with
        | some (.file c _) => Text.toBytes c
        | _ => []
      let mode := match w.p.fs.node? q with
        | some (.file _ m) => m
        | _ => 0o666 &&& (0o7777 - w.sh.umask)
      let at_ := seek * obs
      let kept := if convs.contains "notrunc" then old else old.take at_
      let before := kept.take at_ ++ List.replicate (at_ - kept.length) 0
      let after := kept.drop (at_ + data.length)
      modifyProc fun p => { p with fs := p.fs.put q (.file (Text.ofBytes (before ++ data ++ after)) mode) }
    | .error e =>
      say name ("failed to open " ++ (← quoted f) ++ ": " ++ e.description)
      exitWith 1
  | none => emit data
  if status != "none" then
    err (toString fullIn ++ "+" ++ toString partIn ++ " records in\n" ++
      toString fullOut ++ "+" ++ toString partOut ++ " records out\n")
    if status != "noxfer" then
      err (toString data.length ++ " bytes copied, 0 s, 0 kB/s\n")
  exitWith 0

end Fanout.Programs
