/-!
# Base64 and base32

The encodings of RFC 4648. Base64 writes each three bytes as four characters of a 64-letter
alphabet, base32 each five bytes as eight characters of a 32-letter one; a last partial group
is padded with `=`. Decoding reads the characters back in groups, padding allowed only at the
end of the text, and fails on any other character.
-/

namespace Fanout.Text

/-- The alphabet of base64. -/
def base64Alphabet : String :=
  "ABCDEFGHIJKLMNOPQRSTUVWXYZabcdefghijklmnopqrstuvwxyz0123456789+/"

/-- The alphabet of base32. -/
def base32Alphabet : String := "ABCDEFGHIJKLMNOPQRSTUVWXYZ234567"

/-- An encoding of bytes as text: its alphabet, the bits per character, and the bytes and
characters of a full group. -/
structure Radix where
  alphabet : String
  bits : Nat
  groupBytes : Nat
  groupChars : Nat

/-- Base64. -/
def Radix.base64 : Radix := ⟨base64Alphabet, 6, 3, 4⟩

/-- Base32. -/
def Radix.base32 : Radix := ⟨base32Alphabet, 5, 5, 8⟩

/-- Encode one group of at most `groupBytes` bytes, padded with `=`. -/
def Radix.encodeGroup (r : Radix) (g : List UInt8) : String :=
  let value := g.foldl (fun v b => v * 256 + b.toNat) 0 * Nat.pow 256 (r.groupBytes - g.length)
  let used := (g.length * 8 + r.bits - 1) / r.bits
  let chars := (List.range r.groupChars).map fun i =>
    let shift := r.bits * (r.groupChars - 1 - i)
    if i < used then r.alphabet.toList.getD ((value >>> shift) % Nat.pow 2 r.bits) '=' else '='
  String.ofList chars

/-- Encode bytes. -/
def Radix.encode (r : Radix) (bs : List UInt8) : String :=
  let rec go : Nat → List UInt8 → String → String
    | 0, _, acc => acc
    | _ + 1, [], acc => acc
    | k + 1, rest, acc => go k (rest.drop r.groupBytes) (acc ++ r.encodeGroup (rest.take r.groupBytes))
  go (bs.length + 1) bs ""

/-- The value of a character of the alphabet. -/
def Radix.valueOf? (r : Radix) (c : Char) : Option Nat := r.alphabet.toList.idxOf? c

/-- Decode one group of characters: the bytes read, and whether the group was whole. Bytes
are given as soon as two characters make one, so a broken group still yields its first bytes;
`=` may only pad the end of a full group. -/
def Radix.decodeGroup (r : Radix) (g : List Char) : List UInt8 × Bool :=
  let data := g.takeWhile (· != '=')
  let pad := g.drop data.length
  let values := data.map r.valueOf?
  let good := values.takeWhile Option.isSome |>.filterMap id
  let bytesOf (vs : List Nat) : List UInt8 :=
    let n := vs.length * r.bits / 8
    let value := vs.foldl (fun v x => v * Nat.pow 2 r.bits + x) 0 * Nat.pow 2 (r.bits * (r.groupChars - vs.length))
    let total := r.groupBytes * 8
    (List.range n).map fun i => ((value >>> (total - 8 * (i + 1))) % 256).toUInt8
  let whole := good.length == data.length && g.length == r.groupChars &&
    pad.all (· == '=') && data.length * r.bits / 8 * 8 + r.bits > data.length * r.bits &&
    data.length ≥ 2
  (bytesOf good, whole)

/-- Decode text in groups of `groupChars` characters, newlines left out: the bytes, and whether
all of it was valid. Decoding stops at the first broken group, after its first bytes. -/
def Radix.decode (r : Radix) (cs : List Char) : List UInt8 × Bool :=
  let rec go : Nat → List Char → List UInt8 → List UInt8 × Bool
    | 0, _, acc => (acc, true)
    | _ + 1, [], acc => (acc, true)
    | k + 1, rest, acc =>
      let (bytes, whole) := r.decodeGroup (rest.take r.groupChars)
      if whole then go k (rest.drop r.groupChars) (acc ++ bytes) else (acc ++ bytes, false)
  go (cs.length + 1) (cs.filter (· != '\n')) []

end Fanout.Text
