import Fanout.Programs.Basic
import Fanout.Posix.Numeric

/-!
# The `od` program

`od` writes its input in rows of sixteen bytes. Each row starts with the offset of its first
byte (in octal, decimal or hexadecimal, or not at all with `-An`) and shows the bytes in every
chosen format: characters (`-c`, `-t c`), named characters (`-t a`), or numbers of 1, 2, 4 or
8 bytes (little-endian) in octal, decimal, unsigned or hexadecimal (`-t o2`, `-t x1`, `-b`,
`-d`, `-x`, …). Each value takes a fixed width, right-aligned after a blank. A row equal to
the one before is shown as `*` (unless `-v`), and the offset after the last byte ends the
output.
-/

namespace Fanout.Programs

open Fanout.Posix

/-- One output format: its letter (`a`, `c`, `d`, `o`, `u` or `x`) and the size of a value in
bytes. -/
structure DumpFormat where
  kind : Char
  size : Nat
  deriving Inhabited, BEq

/-- The width a value of a format takes, without the blank before it. -/
def DumpFormat.width (f : DumpFormat) : Nat :=
  match f.kind, f.size with
  | 'a', _ => 3
  | 'c', _ => 3
  | 'o', 1 => 3
  | 'o', 2 => 6
  | 'o', 4 => 11
  | 'o', _ => 22
  | 'x', k => 2 * k
  | 'u', 1 => 3
  | 'u', 2 => 5
  | 'u', 4 => 10
  | 'u', _ => 20
  | 'd', 1 => 4
  | 'd', 2 => 6
  | 'd', 4 => 11
  | _, _ => 20

/-- The names `od -t a` gives the bytes below 33 and 127. -/
def asciiNames : List String :=
  ["nul", "soh", "stx", "etx", "eot", "enq", "ack", "bel", "bs", "ht", "nl", "vt", "ff", "cr",
   "so", "si", "dle", "dc1", "dc2", "dc3", "dc4", "nak", "syn", "etb", "can", "em", "sub", "esc",
   "fs", "gs", "rs", "us", "sp"]

/-- How `od -c` shows a byte: itself when printable, a C escape, or three octal digits. -/
def charCell (b : Nat) : String :=
  match b with
  | 0 => "\\0"
  | 7 => "\\a"
  | 8 => "\\b"
  | 9 => "\\t"
  | 10 => "\\n"
  | 11 => "\\v"
  | 12 => "\\f"
  | 13 => "\\r"
  | _ =>
    if 32 ≤ b && b < 127 then String.singleton (Char.ofNat b)
    else
      let t := digitText 8 false b
      fill (3 - t.length) '0' ++ t

/-- How `od -t a` shows a byte. -/
def namedCell (b : Nat) : String :=
  let b := b % 128
  if b ≤ 32 then asciiNames.getD b "" else if b == 127 then "del" else String.singleton (Char.ofNat b)

/-- The little-endian value of some bytes. -/
def littleEndian (bs : List Nat) : Nat := bs.foldr (fun b acc => b + 256 * acc) 0

/-- One value of a format, from its bytes, before padding. -/
def cellText (f : DumpFormat) (bs : List Nat) : String :=
  let v := littleEndian bs
  match f.kind with
  | 'c' => charCell (bs.headD 0)
  | 'a' => namedCell (bs.headD 0)
  | 'o' =>
    let t := digitText 8 false v
    fill (f.width - t.length) '0' ++ t
  | 'x' =>
    let t := digitText 16 false v
    fill (f.width - t.length) '0' ++ t
  | 'u' => toString v
  | _ =>
    let bits := 8 * f.size
    if v ≥ Nat.pow 2 (bits - 1) then "-" ++ toString (Nat.pow 2 bits - v) else toString v

/-- Cut a list into pieces of `k`. -/
def chunks {α : Type} (k : Nat) : Nat → List α → List (List α)
  | 0, _ => []
  | _ + 1, [] => []
  | fuel + 1, xs => xs.take k :: chunks k fuel (xs.drop k)

/-- One row of a format: every value after a blank, right-aligned in its width. Bytes that do
not fill a last value count as zeros. -/
def rowText (f : DumpFormat) (row : List Nat) : String :=
  let groups := chunks f.size (row.length + 1) row
  String.join (groups.map fun g =>
    let g := g ++ List.replicate (f.size - g.length) 0
    let t := cellText f g
    " " ++ fill (f.width - t.length) ' ' ++ t)

/-- An offset in a radix, padded as `od` pads it. -/
def offsetText (radix : Char) (n : Nat) : String :=
  match radix with
  | 'd' =>
    let t := toString n
    fill (7 - t.length) '0' ++ t
  | 'x' =>
    let t := digitText 16 false n
    fill (6 - t.length) '0' ++ t
  | 'n' => ""
  | _ =>
    let t := digitText 8 false n
    fill (7 - t.length) '0' ++ t

/-- Read a format of `-t`: a letter, then a size as a number or a letter (`C`, `S`, `I`,
`L`); several may follow each other. -/
def readFormats : Nat → List Char → Option (List DumpFormat)
  | 0, _ => some []
  | _ + 1, [] => some []
  | fuel + 1, c :: rest =>
    if c == 'a' || c == 'c' then (readFormats fuel rest).map (⟨c, 1⟩ :: ·)
    else if "doux".toList.contains c then
      let (size, rest) : Nat × List Char := match rest with
        | 'C' :: r => (1, r)
        | 'S' :: r => (2, r)
        | 'I' :: r => (4, r)
        | 'L' :: r => (8, r)
        | _ =>
          let ds := rest.takeWhile Char.isDigit
          (if ds.isEmpty then 4 else digitsValue 10 ds, rest.drop ds.length)
      if [1, 2, 4, 8].contains size then (readFormats fuel rest).map (⟨c, size⟩ :: ·)
      else none
    else none

/-- The rows of a dump after the offset `start`: each with its offset, the equal ones after the
first shown as `*`. -/
def dumpRows (radix : Char) (formats : List DumpFormat) (all : Bool) (width : Nat) (start : Nat)
    (rows : List (List Nat)) : String :=
  let (text, _, _, offset) := rows.foldl (fun (acc, prev, starred, offset) row =>
    if !all && prev == some row then
      (if starred then acc else acc ++ "*\n", prev, true, offset + row.length)
    else
      let lead := offsetText radix offset
      let pad := fill lead.length ' '
      let body := String.join ((formats.zip (List.range formats.length)).map fun (f, i) =>
        (if i == 0 then lead else pad) ++ rowText f row ++ "\n")
      (acc ++ body, some row, false, offset + row.length)) ("", none, false, start)
  let _ := width
  if radix == 'n' then text else text ++ offsetText radix offset ++ "\n"

/-- The `od` program. -/
def odProgram (name : String) (args : List String) : Sh Unit := do
  let (opts, files) ← options name "A:bcdj:N:ost:vw:x" true args
    [("address-radix", 'A'), ("skip-bytes", 'j'), ("read-bytes", 'N'), ("format", 't'),
     ("output-duplicates", 'v'), ("width", 'w')]
  let radix := ((optArg opts 'A').bind fun a => a.toList.head?).getD 'o'
  if !"doxn".toList.contains radix then
    say name ("invalid output address radix " ++ (← quoted (String.singleton radix)) ++
      "; it must be one character from [doxn]")
    exitWith 1
  let mut chosen : List DumpFormat := []
  for (c, v) in opts do
    match c with
    | 'b' => chosen := chosen ++ [⟨'o', 1⟩]
    | 'c' => chosen := chosen ++ [⟨'c', 1⟩]
    | 'd' => chosen := chosen ++ [⟨'u', 2⟩]
    | 'o' => chosen := chosen ++ [⟨'o', 2⟩]
    | 's' => chosen := chosen ++ [⟨'d', 2⟩]
    | 'x' => chosen := chosen ++ [⟨'x', 2⟩]
    | 't' =>
      match readFormats (v.length + 1) v.toList with
      | some fs => chosen := chosen ++ fs
      | none =>
        say name ("invalid type string " ++ (← quoted v))
        exitWith 1
    | _ => pure ()
  let formats := if chosen.isEmpty then [⟨'o', 2⟩] else chosen
  let width := ((optArg opts 'w').bind String.toNat?).getD 16
  let skip := ((optArg opts 'j').bind readCountText).getD 0
  let limit := (optArg opts 'N').bind readCountText
  let (inputs, ok) ← readInputs name files
  let bytes := (inputs.flatMap (·.2)).map (·.toNat)
  let bytes := bytes.drop skip
  let bytes := match limit with
    | some k => bytes.take k
    | none => bytes
  let rows := chunks width (bytes.length + 1) bytes
  out (dumpRows radix formats (hasOpt opts 'v') width skip rows)
  exitWith (if ok then 0 else 1)
where
  /-- A count of bytes: decimal, or hexadecimal after `0x`. -/
  readCountText (s : String) : Option Nat :=
    if s.startsWith "0x" then some (digitsValue 16 (s.drop 2).toString.toList) else s.toNat?

end Fanout.Programs
