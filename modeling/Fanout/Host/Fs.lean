import Fanout.Host.Path

/-!
# A file system

The directories, files, symbolic links, devices and installed programs of a machine, each under
its absolute path. Paths and file contents are byte strings (one character per byte). Looking
up a path walks its names from the root or the working directory, follows links (a bounded
number of them) and fails as the system does: a missing name is `No such file or directory`,
and a name under a file is `Not a directory`.

Every write stamps the path with the next tick of a counter, so that of two paths the one
written later is the newer; what the machine held from the start has tick zero. Some
directories (those of the kernel's process table) take no new names: making one there fails
with `No such file or directory`.

Directories are made the way `mkdir -p` makes them: each missing ancestor first, an existing
directory accepted, anything else at the last name refused with `File exists`.
-/

namespace Fanout.Host

/-- An error of the operating system, by its number. -/
inductive OsError where
  | notFound
  | permissionDenied
  | exists
  | notDir
  | isDir
  | tooManyLinks
  | execFormat
  | notPermitted
  /-- No space is left on the device. -/
  | noSpace
  /-- A file's bytes are not text in UTF-8 (no number of the system). -/
  | invalidText
  deriving Inhabited, DecidableEq, Repr

/-- The number of the error. -/
def OsError.code : OsError → Nat
  | .notFound => 2
  | .permissionDenied => 13
  | .exists => 17
  | .notDir => 20
  | .isDir => 21
  | .tooManyLinks => 40
  | .execFormat => 8
  | .notPermitted => 1
  | .noSpace => 28
  | .invalidText => 0

/-- The system's description of the error. -/
def OsError.description : OsError → String
  | .notFound => "No such file or directory"
  | .permissionDenied => "Permission denied"
  | .exists => "File exists"
  | .notDir => "Not a directory"
  | .isDir => "Is a directory"
  | .tooManyLinks => "Too many levels of symbolic links"
  | .execFormat => "Exec format error"
  | .notPermitted => "Operation not permitted"
  | .noSpace => "No space left on device"
  | .invalidText => "stream did not contain valid UTF-8"

/-- `<description> (os error <number>)`, or the description alone for an error that has no
number. -/
def OsError.text (e : OsError) : String :=
  if e.code == 0 then e.description
  else e.description ++ " (os error " ++ toString e.code ++ ")"

/-- A character device. -/
inductive Device where
  /-- Reads nothing and takes every write. -/
  | null
  /-- Reads zero bytes without end and refuses every write for want of space. -/
  | full
  /-- Reads zero bytes without end and takes every write. -/
  | zero
  deriving Inhabited, DecidableEq, Repr

/-- What a path names. -/
inductive Node where
  /-- A directory with its permission bits (sticky and set-id bits included). -/
  | dir (mode : Nat)
  /-- A file with its bytes and permission bits. -/
  | file (content : String) (mode : Nat)
  /-- A symbolic link to `target`. -/
  | link (target : String)
  | device (d : Device)
  /-- A program installed on the machine, known by name, with its permission bits. -/
  | program (name : String) (mode : Nat)
  deriving Inhabited, DecidableEq, Repr

/-- The permission bits of a node; a link shows all of them. -/
def Node.mode : Node → Nat
  | .dir m => m
  | .file _ m => m
  | .link _ => 0o777
  | .device _ => 0o666
  | .program _ m => m

/-- The number of bytes a node holds: a file its contents, a directory one block. -/
def Node.size : Node → Nat
  | .file content _ => content.length
  | .dir _ => 4096
  | .link target => target.length
  | .device _ => 0
  | .program _ _ => 142312

/-- The machine's files, each under its absolute path without a trailing slash, with the tick
of the last write to each and the directories that take no new names. -/
structure Fs where
  nodes : List (String × Node)
  stamps : List (String × Nat) := []
  clock : Nat := 0
  sealed : List String := []
  deriving Inhabited

namespace Fs

/-- A file system with only the root directory. -/
def empty : Fs := { nodes := [("/", .dir 0o755)] }

/-- The node stored under an absolute path, links not followed. -/
def node? (fs : Fs) (p : String) : Option Node :=
  (fs.nodes.find? (·.1 == p)).map (·.2)

/-- Store a node under an absolute path, replacing what was there, and stamp the path. -/
def put (fs : Fs) (p : String) (n : Node) : Fs :=
  { fs with nodes := (fs.nodes.filter (·.1 != p)) ++ [(p, n)],
            stamps := (p, fs.clock + 1) :: fs.stamps.filter (·.1 != p),
            clock := fs.clock + 1 }

/-- Store a node as part of the machine's first layout, with tick zero. -/
def install (fs : Fs) (p : String) (n : Node) : Fs :=
  { fs with nodes := (fs.nodes.filter (·.1 != p)) ++ [(p, n)] }

/-- The tick of the last write to an absolute path. -/
def stamp (fs : Fs) (p : String) : Nat := (fs.stamps.lookup p).getD 0

/-- Remove the node under an absolute path. -/
def remove (fs : Fs) (p : String) : Fs :=
  { fs with nodes := fs.nodes.filter (·.1 != p) }

/-- Remove the node under an absolute path and everything below it. -/
def removeTree (fs : Fs) (p : String) : Fs :=
  { fs with nodes := fs.nodes.filter fun (k, _) => k != p && !k.startsWith (p ++ "/") }

/-- Whether new names may be made in the directory at an absolute path. -/
def acceptsNames (fs : Fs) (dir : String) : Bool :=
  !fs.sealed.any fun d => dir == d || dir.startsWith (d ++ "/")

/-- Links followed at most this many times in one lookup. -/
def linkBudget : Nat := 40

/-- Walk the names `ps` from the directory `base`, following links while `fuel` lasts. The result
is the path of what the names lead to, with every link resolved. When `dirOnly` holds the end
must be a directory. -/
def walk (fs : Fs) : Nat → String → List String → Bool → Except OsError String
  | _, base, [], _ => .ok base
  | fuel, base, ".." :: rest, dirOnly => walk fs fuel (parentPath base) rest dirOnly
  | fuel, base, name :: rest, dirOnly =>
    let here := joinPath base name
    match fs.node? here with
    | none => .error .notFound
    | some (.dir _) => walk fs fuel here rest dirOnly
    | some (.file _ _) | some (.device _) | some (.program _ _) =>
      if rest.isEmpty && !dirOnly then .ok here else .error .notDir
    | some (.link target) =>
      match fuel with
      | 0 => .error .tooManyLinks
      | f + 1 =>
        let from_ := if isAbsolute target then "/" else base
        match walk fs f from_ (parts target) (dirOnly || !rest.isEmpty) with
        | .ok resolved => walk fs f resolved rest dirOnly
        | .error e => .error e

/-- Whether a path must name a directory: it ends with a slash or a `.` piece. -/
def namesDirectory (p : String) : Bool :=
  p.endsWith "/" || p.endsWith "/." || p == "."

/-- The path of what `p` names, looked up from `cwd`, with links and `..` resolved. -/
def resolve (fs : Fs) (cwd p : String) : Except OsError String :=
  if p = "" then .error .notFound
  else walk fs linkBudget (if isAbsolute p then "/" else cwd) (parts p) (namesDirectory p)

/-- The node that `p` names, links followed. -/
def stat (fs : Fs) (cwd p : String) : Except OsError Node :=
  match fs.resolve cwd p with
  | .ok q =>
    match fs.node? q with
    | some n => .ok n
    | none => .error .notFound
  | .error e => .error e

/-- The path of what `p` names with the links on the way resolved, but not a link at its end. -/
def resolveParent (fs : Fs) (cwd p : String) : Except OsError String :=
  match (parts p).getLast? with
  | none => fs.resolve cwd p
  | some name =>
    if namesDirectory p || name == ".." then fs.resolve cwd p
    else
      let parentText := if isAbsolute p then "/" ++ "/".intercalate (parts p).dropLast
        else "/".intercalate (parts p).dropLast
      match fs.resolve cwd (if parentText = "" then "." else parentText) with
      | .ok dir =>
        let q := joinPath dir name
        if (fs.node? q).isSome then .ok q else .error .notFound
      | .error e => .error e

/-- The path of what `p` names and its node, a link at its end not followed. -/
def lookup (fs : Fs) (cwd p : String) : Except OsError (String × Node) :=
  match fs.resolveParent cwd p with
  | .ok q =>
    match fs.node? q with
    | some n => .ok (q, n)
    | none => .error .notFound
  | .error e => .error e

/-- The entries of the directory at an absolute path: each name and node, in the order they
were made. -/
def children (fs : Fs) (dir : String) : List (String × Node) :=
  fs.nodes.filterMap fun (p, n) =>
    if p != "/" && parentPath p == dir then (fileName p).map (·, n) else none

/-- Where a new file named `p` would be made: under its directory, resolved, which must exist
and take new names. -/
def createPath (fs : Fs) (cwd p : String) : Except OsError String :=
  match (parts p).getLast? with
  | none => .error .isDir
  | some name =>
    if namesDirectory p || name == ".." then .error .isDir
    else
      let parentText := if isAbsolute p then "/" ++ "/".intercalate (parts p).dropLast
        else "/".intercalate (parts p).dropLast
      match fs.resolve cwd (if parentText = "" then "." else parentText) with
      | .ok dir =>
        match fs.node? dir with
        | some (.dir _) => if fs.acceptsNames dir then .ok (joinPath dir name) else .error .notFound
        | _ => .error .notDir
      | .error e => .error e

/-- Whether `p` names a directory. -/
def isDir (fs : Fs) (cwd p : String) : Bool :=
  match fs.stat cwd p with
  | .ok (.dir _) => true
  | _ => false

/-- Make the one directory `p`, whose parent must exist. -/
def mkdir (fs : Fs) (cwd p : String) : Except OsError Fs :=
  match (parts p).getLast? with
  | none => .error .exists
  | some name =>
    let parentText := if isAbsolute p then "/" ++ "/".intercalate (parts p).dropLast
      else "/".intercalate (parts p).dropLast
    let parentResolved :=
      if parentText = "" then .ok cwd else fs.resolve cwd parentText
    match parentResolved with
    | .error e => .error e
    | .ok dir =>
      match fs.node? dir with
      | some (.dir _) =>
        let target := joinPath dir name
        match fs.node? target with
        | some _ => .error .exists
        | none => if fs.acceptsNames dir then .ok (fs.put target (.dir 0o755)) else .error .notFound
      | _ => .error .notDir

/-- Make the first of `chain` after its ancestors, which follow it in the list: the directory
is tried first, its ancestors only when it has no parent yet. -/
def mkdirChain (fs : Fs) (cwd : String) : List String → Except OsError Fs
  | [] => .ok fs
  | q :: ancestors =>
    match fs.mkdir cwd q with
    | .ok fs2 => .ok fs2
    | .error .notFound =>
      match mkdirChain fs cwd ancestors with
      | .ok fs2 =>
        match fs2.mkdir cwd q with
        | .ok fs3 => .ok fs3
        | .error e => if fs2.isDir cwd q then .ok fs2 else .error e
      | .error e => .error e
    | .error e => if fs.isDir cwd q then .ok fs else .error e

/-- Make `p` and every missing ancestor, accepting an existing directory. -/
def mkdirAll (fs : Fs) (cwd p : String) : Except OsError Fs :=
  let lead := if isAbsolute p then "/" else ""
  let names := parts p
  let chain := (List.range names.length).reverse.map fun i =>
    lead ++ "/".intercalate (names.take (i + 1))
  fs.mkdirChain cwd chain

/-- Write a file under an absolute path, making its directory if needed. -/
def writeFile (fs : Fs) (p content : String) (mode : Nat := 0o644) : Fs :=
  let fs := match fs.mkdirAll "/" (parentPath p) with
    | .ok f => f
    | .error _ => fs
  fs.put ("/" ++ "/".intercalate (parts p)) (.file content mode)

end Fs

end Fanout.Host
