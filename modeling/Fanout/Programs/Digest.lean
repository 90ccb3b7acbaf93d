import Fanout.Programs.Basic
import Fanout.Checksum.Sha
import Fanout.Checksum.Crc
import Fanout.Text.Base64
import Fanout.Posix.Numeric

/-!
# Programs that digest or encode bytes

`md5sum`, `sha1sum` and the SHA-2 programs print a digest of each input in hexadecimal with the
input's name, or with `-c` check the digests listed in their inputs. `cksum` prints the CRC and
the size of each input, `sum` a 16-bit checksum and the size in blocks. `base64` and `base32`
encode their input into lines of 76 characters, or decode it with `-d`.
-/

namespace Fanout.Programs

open Fanout.Posix Fanout.Checksum Fanout.Text

/-- Two hexadecimal digits for each byte. -/
def hexBytes (bs : List UInt8) : String :=
  let digit (n : Nat) : Char := "0123456789abcdef".toList.getD n '0'
  String.ofList (bs.flatMap fun b => [digit (b.toNat / 16), digit (b.toNat % 16)])

/-- A digest algorithm: its name in tagged lines and its function. -/
structure Digest where
  tag : String
  run : List UInt8 → List UInt8

/-- The digest a program named `name` computes. -/
def Digest.ofProgram (name : String) : Digest :=
  match name with
  | "sha1sum" => ⟨"SHA1", sha1⟩
  | "sha224sum" => ⟨"SHA224", sha224⟩
  | "sha256sum" => ⟨"SHA256", sha256⟩
  | "sha384sum" => ⟨"SHA384", sha384⟩
  | "sha512sum" => ⟨"SHA512", sha512⟩
  | _ => ⟨"MD5", md5⟩

/-- A file name as a digest line writes it: with a backslash before it when it holds a
backslash, a newline or a carriage return, which are then escaped. -/
def escapedName (f : String) : Bool × String :=
  if f.any fun c => c == '\\' || c == '\n' || c == '\r' then
    (true, String.join (f.toList.map fun c =>
      match c with
      | '\\' => "\\\\"
      | '\n' => "\\n"
      | '\r' => "\\r"
      | _ => String.singleton c))
  else (false, f)

/-- A line of a checksum list: the digest in hexadecimal and the file name, in the plain form
`digest  name` (or `digest *name`) or the tagged form `TAG (name) = digest`. -/
def readDigestLine (d : Digest) (l : String) : Option (String × String) :=
  let (escaped, l) := if l.startsWith "\\" then (true, (l.drop 1).toString) else (false, l)
  let unescape (s : String) : String :=
    if !escaped then s
    else
      let rec go : Nat → List Char → String → String
        | 0, _, acc => acc
        | _ + 1, [], acc => acc
        | k + 1, '\\' :: 'n' :: rest, acc => go k rest (acc.push '\n')
        | k + 1, '\\' :: 'r' :: rest, acc => go k rest (acc.push '\r')
        | k + 1, '\\' :: '\\' :: rest, acc => go k rest (acc.push '\\')
        | k + 1, c :: rest, acc => go k rest (acc.push c)
      go (s.length + 1) s.toList ""
  let size := 2 * (d.run []).length
  let isHex (s : String) : Bool := s.length == size && s.all fun c => c.isDigit || ('a' ≤ c && c ≤ 'f') || ('A' ≤ c && c ≤ 'F')
  if l.startsWith (d.tag ++ " (") then
    let body := (l.drop (d.tag.length + 2)).toString
    match body.splitOn ") = " with
    | [] | [_] => none
    | parts =>
      let digest := parts.getLastD ""
      let name := ") = ".intercalate parts.dropLast
      if isHex digest then some (digest.toLower, unescape name) else none
  else
    let digest := String.ofList (l.toList.take size)
    let rest := l.toList.drop size
    match rest with
    | ' ' :: m :: name =>
      if isHex digest && (m == ' ' || m == '*') && !name.isEmpty then
        some (digest.toLower, unescape (String.ofList name))
      else none
    | _ => none

/-- Check the digests listed in one input; the counts of mismatches, unreadable files and
malformed lines, and whether any line was well formed. -/
def checkDigests (name : String) (d : Digest) (quiet status : Bool) (listName : String)
    (text : String) : Sh (Nat × Nat × Nat × Bool) := do
  let lines := (text.splitOn "\n").filter (!·.isEmpty)
  let mut bad := 0
  let mut unread := 0
  let mut malformed := 0
  let mut anyGood := false
  for l in lines do
    match readDigestLine d l with
    | none => malformed := malformed + 1
    | some (digest, f) =>
      anyGood := true
      let (esc, shown) := escapedName f
      let shown := (if esc then "\\" else "") ++ shown
      match ← readOperand f with
      | .ok bs =>
        if hexBytes (d.run bs) == digest then
          if !quiet && !status then out (shown ++ ": OK\n")
        else
          bad := bad + 1
          if !status then out (shown ++ ": FAILED\n")
      | .error e =>
        say name (f ++ ": " ++ e.description)
        unread := unread + 1
        if !status then out (shown ++ ": FAILED open or read\n")
  let _ := listName
  return (bad, unread, malformed, anyGood)

/-- `n thing` with an `s` when `n` is not one. -/
def counted (n : Nat) (one many : String) : String :=
  toString n ++ " " ++ (if n == 1 then one else many)

/-- The `md5sum` family: `name` chooses the digest. -/
def digestProgram (name : String) (args : List String) : Sh Unit := do
  let quietL := Char.ofNat 1
  let statusL := Char.ofNat 2
  let tagL := Char.ofNat 3
  let strictL := Char.ofNat 4
  let ignoreL := Char.ofNat 5
  let (opts, files) ← options name ("bctwz" ++ String.ofList [quietL, statusL, tagL, strictL, ignoreL])
    true args
    [("binary", 'b'), ("check", 'c'), ("text", 't'), ("warn", 'w'), ("zero", 'z'),
     ("quiet", quietL), ("status", statusL), ("tag", tagL), ("strict", strictL),
     ("ignore-missing", ignoreL)]
  let d := Digest.ofProgram ((name.splitOn "/").getLastD name)
  let files := if files.isEmpty then ["-"] else files
  let ending := if hasOpt opts 'z' then "\x00" else "\n"
  if hasOpt opts 'c' then
    let mut failed := false
    for f in files do
      match ← readOperand f with
      | .ok bs =>
        let (bad, unread, malformed, anyGood) ← checkDigests name d (hasOpt opts quietL)
          (hasOpt opts statusL) f (Text.ofBytes bs)
        if !anyGood then
          say name ((if f == "-" then "standard input" else f) ++ ": no properly formatted " ++
            d.tag ++ " checksum lines found")
          failed := true
        else
          if !hasOpt opts statusL then
            if malformed > 0 then
              say name ("WARNING: " ++ counted malformed "line is" "lines are" ++ " improperly formatted")
            if unread > 0 then
              say name ("WARNING: " ++ counted unread "listed file" "listed files" ++ " could not be read")
            if bad > 0 then
              say name ("WARNING: " ++ counted bad "computed checksum" "computed checksums" ++
                " did NOT match")
          if bad > 0 || unread > 0 || (hasOpt opts strictL && malformed > 0) then failed := true
      | .error e =>
        say name (f ++ ": " ++ e.description)
        failed := true
    exitWith (if failed then 1 else 0)
  let mut ok := true
  for f in files do
    match ← readOperand f with
    | .ok bs =>
      let digest := hexBytes (d.run bs)
      let (esc, shown) := if hasOpt opts 'z' then (false, f) else escapedName f
      let lead := if esc then "\\" else ""
      if hasOpt opts tagL then
        out (lead ++ d.tag ++ " (" ++ shown ++ ") = " ++ digest ++ ending)
      else
        out (lead ++ digest ++ " " ++ (if hasOpt opts 'b' then "*" else " ") ++ shown ++ ending)
    | .error e =>
      say name (f ++ ": " ++ e.description)
      ok := false
  exitWith (if ok then 0 else 1)

/-- The `cksum` program: the CRC, the size, and the name of each operand. -/
def cksumProgram (name : String) (args : List String) : Sh Unit := do
  let (_, files) ← options name "" true args
  let named := !files.isEmpty
  let files := if files.isEmpty then ["-"] else files
  let mut ok := true
  for f in files do
    match ← readOperand f with
    | .ok bs =>
      out (toString (posixCrc bs).toNat ++ " " ++ toString bs.length ++
        (if named then " " ++ f else "") ++ "\n")
    | .error e =>
      say name (f ++ ": " ++ e.description)
      ok := false
  exitWith (if ok then 0 else 1)

/-- The `sum` program: the BSD checksum and the size in kilobyte blocks (`-r`, the default), or
the System V checksum and the size in 512-byte blocks (`-s`). The BSD form names its input
only when there are several. -/
def sumProgram (name : String) (args : List String) : Sh Unit := do
  let (opts, files) ← options name "rs" true args [("sysv", 's')]
  let sysv := (opts.filter fun (c, _) => c == 'r' || c == 's').getLast?.any (·.1 == 's')
  let count := files.length
  let files := if files.isEmpty then ["-"] else files
  let mut ok := true
  for f in files do
    match ← readOperand f with
    | .ok bs =>
      let blocks (size : Nat) : Nat := (bs.length + size - 1) / size
      if sysv then
        out (toString (sysvSum bs) ++ " " ++ toString (blocks 512) ++
          (if count > 0 then " " ++ f else "") ++ "\n")
      else
        let s := toString (bsdSum bs)
        let b := toString (blocks 1024)
        out (fill (5 - s.length) '0' ++ s ++ " " ++ fill (5 - b.length) ' ' ++ b ++
          (if count > 1 then " " ++ f else "") ++ "\n")
    | .error e =>
      say name (f ++ ": " ++ e.description)
      ok := false
  exitWith (if ok then 0 else 1)

/-- Break encoded text into lines of `width` characters (none when zero); the last line ends
with a newline too. -/
def wrapLines (width : Nat) (s : String) : String :=
  if width == 0 || s.isEmpty then s
  else
    let rec go : Nat → List Char → String → String
      | 0, _, acc => acc
      | _ + 1, [], acc => acc
      | k + 1, cs, acc => go k (cs.drop width) (acc ++ String.ofList (cs.take width) ++ "\n")
    go (s.length + 1) s.toList ""

/-- The `base64` and `base32` programs. -/
def encodeProgram (r : Radix) (name : String) (args : List String) : Sh Unit := do
  let (opts, files) ← options name "diw:" true args
    [("decode", 'd'), ("ignore-garbage", 'i'), ("wrap", 'w')]
  let width ← match optArg opts 'w' with
    | some v =>
      if !v.isEmpty && v.all Char.isDigit then pure (v.toNat?.getD 0)
      else
        say name ("invalid wrap size: " ++ (← quoted v))
        exitWith 1
    | none => pure 76
  let f ← match files with
    | [] => pure "-"
    | [f] => pure f
    | _ :: extra :: _ => usageError name ("extra operand " ++ (← quoted extra))
  let bs ← match ← readOperand f with
    | .ok bs => pure bs
    | .error e =>
      say name (f ++ ": " ++ e.description)
      exitWith 1
  if hasOpt opts 'd' then
    let cs := (Text.ofBytes bs).toList
    let cs := if hasOpt opts 'i' then cs.filter fun c => c == '=' || (r.valueOf? c).isSome else cs
    let (decoded, whole) := r.decode cs
    emit decoded
    if !whole then
      say name "invalid input"
      exitWith 1
    exitWith 0
  out (wrapLines width (r.encode bs))
  exitWith 0

end Fanout.Programs
