/-!
# Reading bytes as UTF-8, with replacement

Bytes read from a child are text only when they are valid UTF-8. `decodeLossy` reads them as
UTF-8 and puts one replacement character `U+FFFD` in place of every maximal run that starts a
sequence but cannot be completed, and of every byte that cannot start one: the practice the
Unicode standard recommends, so `E2 82` followed by `A` gives one replacement and an `A`.
-/

namespace Fanout.Text

/-- The replacement character. -/
def replacement : Char := '�'

/-- How many bytes a sequence starting with `b` has, and the range its second byte must be
in; `none` when `b` cannot start a sequence of more than one byte. -/
def leadInfo (b : UInt8) : Option (Nat × UInt8 × UInt8) :=
  if 0xC2 ≤ b && b ≤ 0xDF then some (2, 0x80, 0xBF)
  else if b == 0xE0 then some (3, 0xA0, 0xBF)
  else if (0xE1 ≤ b && b ≤ 0xEC) || b == 0xEE || b == 0xEF then some (3, 0x80, 0xBF)
  else if b == 0xED then some (3, 0x80, 0x9F)
  else if b == 0xF0 then some (4, 0x90, 0xBF)
  else if 0xF1 ≤ b && b ≤ 0xF3 then some (4, 0x80, 0xBF)
  else if b == 0xF4 then some (4, 0x80, 0x8F)
  else none

/-- Whether a byte continues a sequence. -/
def isContinuation (b : UInt8) : Bool := 0x80 ≤ b && b ≤ 0xBF

/-- How many bytes after the lead byte continue its sequence, at most `need`: the second must
lie in `lo … hi`, the others be continuation bytes. -/
def validTail (need : Nat) (lo hi : UInt8) (bs : List UInt8) : Nat :=
  match bs with
  | b :: rest =>
    if need == 0 then 0
    else if lo ≤ b && b ≤ hi then 1 + ((rest.take (need - 1)).takeWhile isContinuation).length
    else 0
  | [] => 0

/-- The code point of a complete sequence. -/
def codePoint (bs : List UInt8) : Nat :=
  match bs with
  | [a, b] => (a.toNat % 32) * 64 + b.toNat % 64
  | [a, b, c] => (a.toNat % 16) * 4096 + (b.toNat % 64) * 64 + c.toNat % 64
  | [a, b, c, d] => (a.toNat % 8) * 262144 + (b.toNat % 64) * 4096 + (c.toNat % 64) * 64 + d.toNat % 64
  | _ => 0xFFFD

/-- The character that bytes starting with `b` begin with, and how many of the bytes `rest`
after `b` it takes. -/
def readChar (b : UInt8) (rest : List UInt8) : Char × Nat :=
  if b < 0x80 then (Char.ofNat b.toNat, 0)
  else
    match leadInfo b with
    | none => (replacement, 0)
    | some (len, lo, hi) =>
      let k := validTail (len - 1) lo hi rest
      if k == len - 1 then (Char.ofNat (codePoint (b :: rest.take k)), k) else (replacement, k)

/-- Decode bytes, reversed into `acc`. -/
def decodeInto : Nat → List UInt8 → List Char → List Char
  | 0, _, acc => acc
  | _ + 1, [], acc => acc
  | fuel + 1, b :: rest, acc =>
    let (c, k) := readChar b rest
    decodeInto fuel (rest.drop k) (c :: acc)

/-- Read bytes as UTF-8, replacing what is not valid. -/
def decodeLossy (bs : List UInt8) : String :=
  String.ofList (decodeInto (bs.length + 1) bs []).reverse

/-- The last `n` characters of a text. -/
def lastChars (n : Nat) (s : String) : String :=
  let cs := s.toList
  String.ofList (cs.drop (cs.length - n))

end Fanout.Text
