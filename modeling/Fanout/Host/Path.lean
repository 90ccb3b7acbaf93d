/-!
# Paths

Slash-separated paths as texts. `parts` gives the names a path walks through: the pieces between
slashes, without empty pieces and `.`. A path is made absolute without looking at the disk: a
relative path is put under the working directory, `.` pieces and repeated slashes go, `..`
stays, and a trailing slash is kept. Two leading slashes (but not three) are kept as they are,
since POSIX leaves their meaning to the system.
-/

namespace Fanout.Host

/-- The names a path walks through. -/
def parts (p : String) : List String :=
  (p.splitOn "/").filter fun s => s != "" && s != "."

/-- `name` under `base`, with one slash between them. -/
def joinPath (base name : String) : String :=
  if base.endsWith "/" then base ++ name else base ++ "/" ++ name

/-- The directory that holds `p`; the root holds itself. -/
def parentPath (p : String) : String :=
  match (parts p).dropLast with
  | [] => "/"
  | ps => "/" ++ "/".intercalate ps

/-- Whether a path starts at the root. -/
def isAbsolute (p : String) : Bool := p.startsWith "/"

/-- The last name of a path, if it has one. -/
def fileName (p : String) : Option String := (parts p).getLast?

/-- `p` made absolute under `cwd` without looking at the disk; the empty path has no absolute
form. -/
def absolute? (cwd p : String) : Option String :=
  if p = "" then none
  else
    let start :=
      if isAbsolute p then
        if p.startsWith "//" && !p.startsWith "///" then "//" else "/"
      else cwd
    let body := (parts p).foldl joinPath start
    some (if p.endsWith "/" && !body.endsWith "/" then body ++ "/" else body)

theorem absolute_empty (cwd : String) : absolute? cwd "" = none := rfl

end Fanout.Host
