/-!
# The checksums of `cksum` and `sum`

`cksum` computes the CRC of POSIX: the polynomial `0x04C11DB7` divided into the bytes most
significant bit first, then into the bytes of the length (least significant byte first, as
many as it has), the remainder complemented. `sum` has two older checksums: the BSD one, a
16-bit sum that is rotated right before each byte is added, and the System V one, the sum of
all bytes folded into 16 bits.
-/

namespace Fanout.Checksum

/-- The generator polynomial of the CRC, without its top bit. -/
def crcPolynomial : UInt32 := 0x04C11DB7

/-- The remainder of a byte shifted to the top of a word, after eight steps of division. -/
def crcEntry (i : Nat) : UInt32 :=
  (List.range 8).foldl (fun r _ =>
    if r &&& 0x80000000 != 0 then (r <<< 1) ^^^ crcPolynomial else r <<< 1) (i.toUInt32 <<< 24)

/-- The remainders of all 256 bytes. -/
def crcTable : Array UInt32 := ((List.range 256).map crcEntry).toArray

/-- Divide one more byte into the remainder. -/
def crcStep (table : Array UInt32) (crc : UInt32) (b : UInt8) : UInt32 :=
  (crc <<< 8) ^^^ table.getD ((crc >>> 24) ^^^ b.toUInt32).toNat 0

/-- The bytes of a length, least significant first, as many as it needs. -/
def lengthBytes (n : Nat) : List UInt8 :=
  (List.range 8).filterMap fun i => if n >>> (8 * i) > 0 then some (n >>> (8 * i)).toUInt8 else none

/-- The checksum `cksum` prints for a byte list. -/
def posixCrc (bs : List UInt8) : UInt32 :=
  let table := crcTable
  let crc := bs.foldl (crcStep table) 0
  ~~~((lengthBytes bs.length).foldl (crcStep table) crc)

/-- The BSD checksum: rotate the 16-bit sum right by one, then add the byte. -/
def bsdSum (bs : List UInt8) : Nat :=
  bs.foldl (fun s b => ((s >>> 1) + ((s &&& 1) <<< 15) + b.toNat) &&& 0xffff) 0

/-- The System V checksum: the sum of the bytes modulo `2^32`, folded twice into 16 bits. -/
def sysvSum (bs : List UInt8) : Nat :=
  let s := bs.foldl (fun s b => (s + b.toNat) % Nat.pow 2 32) 0
  let r := (s &&& 0xffff) + (s >>> 16)
  (r &&& 0xffff) + (r >>> 16)

end Fanout.Checksum
