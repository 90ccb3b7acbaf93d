import Fanout.Programs.Basic
import Fanout.Programs.Sort
import Fanout.Posix.Builtins

/-!
# Programs that look at names: `ls`, `stat`, `readlink` and `realpath`

`ls` lists directories and names other files, sorted by name (or by time or size), one per
line since its output is never a terminal; `-l` gives the long form with the type and
permissions, the link count, owner, group and size. `stat` prints what a format asks of each
file. `readlink` prints where a link points, and with `-f`, `-e` or `-m`, like `realpath`, the
name with every link, `.` and `..` resolved; they differ in which parts must exist.

Every file belongs to `root`, the only user. Times are not kept, only the order of writes, so
`ls -t` orders by that and dates are written as the start of the epoch.
-/

namespace Fanout.Programs

open Fanout.Posix Fanout.Host

/-! ## What a node looks like -/

/-- The letter of a node's type in a long listing. -/
def typeLetter : Node → Char
  | .dir _ => 'd'
  | .link _ => 'l'
  | .device _ => 'c'
  | _ => '-'

/-- Permission bits as `rwx` triples, with the set-id and sticky bits shown as `s`, `S`, `t`,
`T` in place of the execute letters. -/
def permissionText (mode : Nat) : String :=
  let bit (k : Nat) : Bool := mode / Nat.pow 2 k % 2 == 1
  let triple (r w x special : Nat) (on off : Char) : List Char :=
    [if bit r then 'r' else '-', if bit w then 'w' else '-',
     if bit special then (if bit x then on else off) else (if bit x then 'x' else '-')]
  String.ofList (triple 8 7 6 11 's' 'S' ++ triple 5 4 3 10 's' 'S' ++ triple 2 1 0 9 't' 'T')

/-- The type and permissions of a node, as `ls -l` and `stat %A` write them. -/
def modeText (n : Node) : String :=
  String.singleton (typeLetter n) ++ permissionText (if n matches .link _ then 0o777 else n.mode)

/-- The kind of a node in words, as `stat %F` writes it. -/
def kindText : Node → String
  | .dir _ => "directory"
  | .link _ => "symbolic link"
  | .device _ => "character special file"
  | .file c _ => if c.isEmpty then "regular empty file" else "regular file"
  | .program _ _ => "regular file"

/-- The number of names a node has: a directory has one for itself, one in its parent and one
in each subdirectory. -/
def linkCount (fs : Fs) (path : String) (n : Node) : Nat :=
  let isDir (e : String × Node) : Bool := match e.2 with
    | .dir _ => true
    | _ => false
  match n with
  | .dir _ => 2 + (fs.children path).countP isDir
  | _ => 1

/-- The kilobytes of disk a node takes, in blocks of 4096 bytes. -/
def diskKilobytes (n : Node) : Nat :=
  match n with
  | .dir _ => 4
  | .file c _ => (c.length + 4095) / 4096 * 4
  | .program _ _ => 140
  | _ => 0

/-- The device numbers of a character device. -/
def deviceNumbers : Device → Nat × Nat
  | .null => (1, 3)
  | .zero => (1, 5)
  | .full => (1, 7)

/-! ## `ls` -/

/-- One name `ls` shows: as written, its path, and its node (a link itself, not its target). -/
structure ListEntry where
  name : String
  path : String
  node : Node

/-- How `ls` shows its names. -/
structure ListStyle where
  all : Bool := false
  almostAll : Bool := false
  long : Bool := false
  directories : Bool := false
  recursive : Bool := false
  reverse : Bool := false
  byTime : Bool := false
  bySize : Bool := false
  byVersion : Bool := false
  unsorted : Bool := false
  classify : Bool := false
  slash : Bool := false
  commas : Bool := false
  numeric : Bool := false
  noOwner : Bool := false
  noGroup : Bool := false
  blocks : Bool := false
  quote : Bool := false

/-- Order entries: by name as bytes, or newest or largest first with ties by name, reversed
with `-r`; `-U` keeps the order they were made in. -/
def ListStyle.order (st : ListStyle) (fs : Fs) (es : List ListEntry) : List ListEntry :=
  if st.unsorted then es
  else
    let byName (a b : ListEntry) : Bool :=
      if st.byVersion then compareVersions a.name.toList b.name.toList ≤ 0 else a.name ≤ b.name
    let before (a b : ListEntry) : Bool :=
      if st.byTime then
        let ta := fs.stamp a.path
        let tb := fs.stamp b.path
        ta > tb || (ta == tb && byName a b)
      else if st.bySize then
        a.node.size > b.node.size || (a.node.size == b.node.size && byName a b)
      else byName a b
    let sorted := es.mergeSort before
    if st.reverse then sorted.reverse else sorted

/-- The mark `-F` (or, for directories only, `-p`) puts after a name. -/
def ListStyle.mark (st : ListStyle) (n : Node) : String :=
  match n with
  | .dir _ => if st.classify || st.slash then "/" else ""
  | .link _ => if st.classify then "@" else ""
  | .file _ m | .program _ m => if st.classify && anyExecuteBit m then "*" else ""
  | _ => ""

/-- A name as shown, in double quotes with `-Q`. -/
def ListStyle.shown (st : ListStyle) (name : String) : String :=
  if st.quote then "\"" ++ name ++ "\"" else name

/-- Pad on the left to a width. -/
def padLeft (w : Nat) (s : String) : String := fill (w - s.length) ' ' ++ s

/-- Pad on the right to a width. -/
def padRight (w : Nat) (s : String) : String := s ++ fill (w - s.length) ' '

/-- The lines of a long listing, its columns as wide as their widest entry. -/
def longLines (st : ListStyle) (fs : Fs) (es : List ListEntry) : List String :=
  let owner := if st.numeric then "0" else "root"
  let rows := es.map fun e =>
    let size := match e.node with
      | .device d =>
        let (ma, mi) := deviceNumbers d
        toString ma ++ ", " ++ toString mi
      | n => toString n.size
    (e, toString (linkCount fs e.path e.node), size)
  let linkW := rows.foldl (fun w (_, l, _) => max w l.length) 0
  let sizeW := rows.foldl (fun w (_, _, s) => max w s.length) 0
  rows.map fun (e, links, size) =>
    let blocks := if st.blocks then toString (diskKilobytes e.node) ++ " " else ""
    let who := (if st.noOwner then "" else owner ++ " ") ++ (if st.noGroup then "" else owner ++ " ")
    let target := match e.node with
      | .link t => " -> " ++ t
      | _ => ""
    blocks ++ modeText e.node ++ " " ++ padLeft linkW links ++ " " ++ who ++ padLeft sizeW size ++
      " Jan  1  1970 " ++ st.shown e.name ++ st.mark e.node ++ target

/-- The text for a group of entries: one per line, long lines, or separated by commas. -/
def ListStyle.render (st : ListStyle) (fs : Fs) (es : List ListEntry) : String :=
  if st.long then String.join ((longLines st fs es).map (· ++ "\n"))
  else if st.commas then
    if es.isEmpty then ""
    else
      let names := es.map fun e => st.shown e.name ++ st.mark e.node
      let (text, _) := (names.zip (List.range names.length)).foldl (fun (acc : String × Nat) (n, i) =>
        let last := i + 1 == names.length
        let piece := n ++ (if last then "" else ",")
        let (text, col) := acc
        if i == 0 then (piece, piece.length)
        else if col + 1 + piece.length > 80 then (text ++ "\n" ++ piece, piece.length)
        else (text ++ " " ++ piece, col + 1 + piece.length)) ("", 0)
      text ++ "\n"
  else
    String.join (es.map fun e =>
      (if st.blocks then toString (diskKilobytes e.node) ++ " " else "") ++
        st.shown e.name ++ st.mark e.node ++ "\n")

/-- The entries of a directory that `ls` shows: all with `-a` (with `.` and `..`), those not
starting with a dot with `-A`, else those not starting with a dot. -/
def ListStyle.entriesOf (st : ListStyle) (fs : Fs) (dir : String) : List ListEntry :=
  let own := (fs.children dir).filterMap fun (name, n) =>
    if st.all || st.almostAll || !name.startsWith "." then some ⟨name, joinPath dir name, n⟩
    else none
  let dots := if st.all then
      [⟨".", dir, fs.node? dir |>.getD (.dir 0o755)⟩,
       ⟨"..", parentPath dir, fs.node? (parentPath dir) |>.getD (.dir 0o755)⟩]
    else []
  dots ++ own

/-- The listing of one directory, with its subdirectories after it when recursive: the text,
headed by the name when `headed`. -/
def listDirectory (st : ListStyle) (fs : Fs) : Nat → String → String → Bool → String
  | 0, _, _, _ => ""
  | fuel + 1, shownName, dir, headed =>
    let es := st.order fs (st.entriesOf fs dir)
    let total := if st.long || st.blocks then
        "total " ++ toString (es.foldl (fun t e => t + diskKilobytes e.node) 0) ++ "\n"
      else ""
    let here := (if headed then shownName ++ ":\n" else "") ++ total ++ st.render fs es
    if !st.recursive then here
    else
      let subs := es.filter fun e => e.node matches .dir _ && e.name != "." && e.name != ".."
      here ++ String.join (subs.map fun e =>
        "\n" ++ listDirectory st fs fuel (joinPath shownName e.name) e.path true)

/-- The `ls` program. -/
def lsProgram (name : String) (args : List String) : Sh Unit := do
  let (opts, ops) ← options name "1aACdFfghlmnopQrRsStUv" true args
    [("all", 'a'), ("almost-all", 'A'), ("directory", 'd'), ("classify", 'F'),
     ("numeric-uid-gid", 'n'), ("quote-name", 'Q'), ("reverse", 'r'), ("recursive", 'R'),
     ("size", 's')]
  let st : ListStyle := opts.foldl (fun (st : ListStyle) (c, _) =>
    match c with
    | 'a' => { st with all := true, almostAll := false }
    | 'A' => { st with almostAll := true, all := false }
    | 'd' => { st with directories := true }
    | 'F' => { st with classify := true }
    | 'p' => { st with slash := true }
    | 'f' => { st with all := true, unsorted := true }
    | 'l' => { st with long := true, commas := false }
    | 'g' => { st with long := true, noOwner := true }
    | 'o' => { st with long := true, noGroup := true }
    | 'n' => { st with long := true, numeric := true }
    | 'm' => { st with commas := true, long := false }
    | '1' => { st with commas := false }
    | 'Q' => { st with quote := true }
    | 'r' => { st with reverse := true }
    | 'R' => { st with recursive := true }
    | 's' => { st with blocks := true }
    | 'S' => { st with bySize := true, byTime := false }
    | 't' => { st with byTime := true, bySize := false }
    | 'U' => { st with unsorted := true }
    | 'v' => { st with byVersion := true }
    | _ => st) {}
  let ops := if ops.isEmpty then ["."] else ops
  let w ← get
  let fs := w.p.fs
  let follow := !(st.directories || st.classify || st.long)
  let mut files : List ListEntry := []
  let mut dirs : List ListEntry := []
  let mut bad := false
  for o in ops do
    match fs.lookup w.sh.cwd o with
    | .error e =>
      say name ("cannot access " ++ (← quoted o) ++ ": " ++ e.description)
      bad := true
    | .ok (q, n) =>
      let target : Option (String × Node) := match n with
        | .link _ =>
          if follow then
            match fs.resolve w.sh.cwd o with
            | .ok r => (fs.node? r).map (r, ·)
            | .error _ => none
          else none
        | _ => none
      match target with
      | some (r, .dir m) => if st.directories then files := files ++ [⟨o, q, n⟩] else dirs := dirs ++ [⟨o, r, .dir m⟩]
      | _ =>
        match n with
        | .dir _ => if st.directories then files := files ++ [⟨o, q, n⟩] else dirs := dirs ++ [⟨o, q, n⟩]
        | _ => files := files ++ [⟨o, q, n⟩]
  let shownFiles := st.order fs files
  let shownDirs := st.order fs dirs
  let headed := ops.length > 1 || st.recursive
  let mut text := st.render fs shownFiles
  let mut first := shownFiles.isEmpty
  for d in shownDirs do
    text := text ++ (if first then "" else "\n") ++
      listDirectory st fs (fs.nodes.length + 1) d.name d.path headed
    first := false
  out text
  exitWith (if bad then 2 else 0)

/-! ## Resolving names -/

/-- Which parts of a name must exist when it is resolved: all, all but the last, or none. -/
inductive Existence where
  | all | allButLast | none
  deriving BEq

/-- Resolve a name from a directory: every link followed, `.` and `..` taken away. Missing parts
are kept as written where `need` allows. -/
def canonicalPath (fs : Fs) (cwd : String) (need : Existence) (p : String) :
    Except OsError String :=
  let start := if isAbsolute p then "/" else cwd
  let rec go : Nat → String → List String → Except OsError String
    | 0, _, _ => .error .tooManyLinks
    | _ + 1, dst, [] => .ok dst
    | fuel + 1, dst, c :: rest =>
      if c == "." then go fuel dst rest
      else if c == ".." then go fuel (parentPath dst) rest
      else
        let next := joinPath dst c
        match fs.node? next with
        | none =>
          if need == .none || (need == .allButLast && rest.all (· == ".")) then go fuel next rest
          else .error .notFound
        | some (.link t) => go fuel (if isAbsolute t then "/" else dst) (parts t ++ rest)
        | some (.dir _) => go fuel next rest
        | some _ =>
          if rest.isEmpty || need == .none then go fuel next rest else .error .notDir
  go (Fs.linkBudget + (parts p).length + 1) start ((p.splitOn "/").filter (· != ""))

/-- The `readlink` program. -/
def readlinkProgram (name : String) (args : List String) : Sh Unit := do
  let (opts, ops) ← options name "efmnqsvz" true args
    [("canonicalize", 'f'), ("canonicalize-existing", 'e'), ("canonicalize-missing", 'm'),
     ("no-newline", 'n'), ("quiet", 'q'), ("silent", 's'), ("verbose", 'v'), ("zero", 'z')]
  if ops.isEmpty then usageError name "missing operand"
  let mode := (opts.filter fun (c, _) => c == 'e' || c == 'f' || c == 'm').getLast?.map (·.1)
  let ending := if hasOpt opts 'z' then "\x00" else if hasOpt opts 'n' && ops.length == 1 then "" else "\n"
  let w ← get
  let cwd := physicalPath w.p.fs w.sh.cwd
  let mut ok := true
  for o in ops do
    let result : Except OsError String := match mode with
      | some 'e' => canonicalPath w.p.fs cwd .all o
      | some 'f' => canonicalPath w.p.fs cwd .allButLast o
      | some _ => canonicalPath w.p.fs cwd .none o
      | none =>
        match w.p.fs.lookup w.sh.cwd o with
        | .ok (_, .link t) => .ok t
        | .ok _ => .error (.invalidText)
        | .error e => .error e
    match result with
    | .ok t => out (t ++ ending)
    | .error e =>
      if hasOpt opts 'v' then
        say name (o ++ ": " ++ (if e == .invalidText then "Invalid argument" else e.description))
      ok := false
  exitWith (if ok then 0 else 1)

/-- The path from `base` to `target`, both absolute and resolved. -/
def relativePath (base target : String) : String :=
  let bs := parts base
  let ts := parts target
  let common := ((bs.zip ts).takeWhile fun (a, b) => a == b).length
  let ups := List.replicate (bs.length - common) ".."
  let rel := ups ++ ts.drop common
  if rel.isEmpty then "." else "/".intercalate rel

/-- The `realpath` program. -/
def realpathProgram (name : String) (args : List String) : Sh Unit := do
  let relTo := Char.ofNat 1
  let relBase := Char.ofNat 2
  let (opts, ops) ← options name ("eLmPqsz" ++ String.ofList [relTo, ':', relBase, ':']) true args
    [("canonicalize-existing", 'e'), ("canonicalize-missing", 'm'), ("logical", 'L'),
     ("physical", 'P'), ("quiet", 'q'), ("strip", 's'), ("no-symlinks", 's'), ("zero", 'z'),
     ("relative-to", relTo), ("relative-base", relBase)]
  if ops.isEmpty then usageError name "missing operand"
  let need := match (opts.filter fun (c, _) => c == 'e' || c == 'm').getLast?.map (·.1) with
    | some 'e' => Existence.all
    | some _ => .none
    | none => .allButLast
  let w ← get
  let cwd := physicalPath w.p.fs w.sh.cwd
  let resolve (p : String) : Except OsError String :=
    if hasOpt opts 's' then .ok (logicalPath cwd p) else canonicalPath w.p.fs cwd need p
  let base ← match optArg opts relTo with
    | some b =>
      match resolve b with
      | .ok r => pure (some r)
      | .error e =>
        say name (b ++ ": " ++ e.description)
        exitWith 1
    | none => pure none
  let ending := if hasOpt opts 'z' then "\x00" else "\n"
  let mut ok := true
  for o in ops do
    match resolve o with
    | .ok r =>
      let shown := match base with
        | some b => relativePath b r
        | none => r
      out (shown ++ ending)
    | .error e =>
      if !hasOpt opts 'q' then say name (o ++ ": " ++ e.description)
      ok := false
  exitWith (if ok then 0 else 1)

/-! ## `stat` -/

/-- What one directive of a `stat` format gives for a file. -/
def statField (fs : Fs) (shownName path : String) (n : Node) (c : Char) : String :=
  match c with
  | 'a' => String.ofList (Nat.toDigits 8 (n.mode % 0o10000))
  | 'A' => modeText n
  | 'b' => toString (diskKilobytes n * 2)
  | 'B' => "512"
  | 'd' => "0"
  | 'D' => "0"
  | 'f' => String.ofList (Nat.toDigits 16 (n.mode % 0o10000 + (match n with
      | .dir _ => 0o40000
      | .link _ => 0o120000
      | .device _ => 0o20000
      | _ => 0o100000)))
  | 'F' => kindText n
  | 'g' => "0"
  | 'G' => "root"
  | 'h' => toString (linkCount fs path n)
  | 'i' => "0"
  | 'm' => "/"
  | 'n' => shownName
  | 'N' =>
    match n with
    | .link t => "'" ++ shownName ++ "' -> '" ++ t ++ "'"
    | _ => "'" ++ shownName ++ "'"
  | 'o' => "4096"
  | 's' => toString n.size
  | 't' => match n with
    | .device d => String.ofList (Nat.toDigits 16 (deviceNumbers d).1)
    | _ => "0"
  | 'T' => match n with
    | .device d => String.ofList (Nat.toDigits 16 (deviceNumbers d).2)
    | _ => "0"
  | 'u' => "0"
  | 'U' => "root"
  | 'w' => "-"
  | 'W' => "0"
  | 'x' | 'y' | 'z' => "1970-01-01 00:00:00.000000000 +0000"
  | 'X' | 'Y' | 'Z' => "0"
  | '%' => "%"
  | _ => "?"

/-- Fill in a `stat` format for one file. -/
def statFormat (fs : Fs) (shownName path : String) (n : Node) (fmt : String) : String :=
  let rec go : Nat → List Char → String → String
    | 0, _, acc => acc
    | _ + 1, [], acc => acc
    | k + 1, '%' :: c :: rest, acc => go k rest (acc ++ statField fs shownName path n c)
    | k + 1, c :: rest, acc => go k rest (acc.push c)
  go (fmt.length + 1) fmt.toList ""

/-- A format with its backslash escapes read, as `stat --printf` reads it. -/
def unescapeFormat (s : String) : String :=
  let rec go : Nat → List Char → String → String
    | 0, _, acc => acc
    | _ + 1, [], acc => acc
    | k + 1, '\\' :: rest, acc =>
      let (c, more) := formatEscape rest
      go k more (acc.push c)
    | k + 1, c :: rest, acc => go k rest (acc.push c)
  go (s.length + 1) s.toList ""

/-- The `stat` program. -/
def statProgram (name : String) (args : List String) : Sh Unit := do
  let printfL := Char.ofNat 1
  let (opts, ops) ← options name ("c:Lt" ++ String.ofList [printfL, ':']) true args
    [("format", 'c'), ("dereference", 'L'), ("terse", 't'), ("printf", printfL)]
  if ops.isEmpty then usageError name "missing operand"
  let w ← get
  let mut ok := true
  for o in ops do
    let found := if hasOpt opts 'L' then
        match w.p.fs.resolve w.sh.cwd o with
        | .ok q => match w.p.fs.node? q with
          | some n => Except.ok (q, n)
          | none => .error OsError.notFound
        | .error e => .error e
      else w.p.fs.lookup w.sh.cwd o
    match found with
    | .error e =>
      say name ("cannot stat " ++ (← quoted o) ++ ": " ++ e.description)
      ok := false
    | .ok (q, n) =>
      match optArg opts 'c', optArg opts printfL with
      | some fmt, _ => out (statFormat w.p.fs o q n fmt ++ "\n")
      | none, some fmt => out (statFormat w.p.fs o q n (unescapeFormat fmt))
      | none, none =>
        let fmt := "  File: %N\n  Size: %s\tBlocks: %b\tIO Block: %o   %F\nDevice: 0,0\tInode: %i\tLinks: %h\n" ++
          "Access: (0%a/%A)  Uid: (    0/    root)   Gid: (    0/    root)\n" ++
          "Access: %x\nModify: %y\nChange: %z\n Birth: -\n"
        out (statFormat w.p.fs o q n fmt)
  exitWith (if ok then 0 else 1)

end Fanout.Programs
