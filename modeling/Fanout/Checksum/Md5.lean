/-!
# MD5

The MD5 message digest (RFC 1321): the message is padded with a one bit, zeros and its length
in bits to a multiple of 64 bytes, and each block of sixteen little-endian words goes through
four rounds of sixteen steps on a state of four words. The digest is the state's words as
little-endian bytes.
-/

namespace Fanout.Checksum

/-- Rotate a word left by `n` bits. -/
def rotl32 (x : UInt32) (n : UInt32) : UInt32 := (x <<< n) ||| (x >>> (32 - n))

/-- The message padded as MD5 and the SHA family pad it: a `0x80` byte, zeros up to 56 bytes
past a multiple of 64, and the length in bits as eight bytes, little-endian when `little`. -/
def padMessage (little : Bool) (bs : List UInt8) : Array UInt8 :=
  let n := bs.length
  let zeros := (119 - n % 64) % 64
  let bits := n * 8
  let lenBytes := (List.range 8).map fun i => (bits >>> (8 * i)).toUInt8
  (bs ++ [0x80] ++ List.replicate zeros 0 ++ (if little then lenBytes else lenBytes.reverse)).toArray

/-- The little-endian word at byte `i`. -/
def wordLE (a : Array UInt8) (i : Nat) : UInt32 :=
  (a.getD i 0).toUInt32 ||| ((a.getD (i + 1) 0).toUInt32 <<< 8) |||
    ((a.getD (i + 2) 0).toUInt32 <<< 16) ||| ((a.getD (i + 3) 0).toUInt32 <<< 24)

/-- The bytes of a word, little-endian. -/
def bytesLE (w : UInt32) : List UInt8 :=
  [w.toUInt8, (w >>> 8).toUInt8, (w >>> 16).toUInt8, (w >>> 24).toUInt8]

/-- The sine table of MD5: the integer part of `2^32 · |sin (i + 1)|`. -/
def md5Table : Array UInt32 := #[
  0xd76aa478, 0xe8c7b756, 0x242070db, 0xc1bdceee, 0xf57c0faf, 0x4787c62a, 0xa8304613, 0xfd469501,
  0x698098d8, 0x8b44f7af, 0xffff5bb1, 0x895cd7be, 0x6b901122, 0xfd987193, 0xa679438e, 0x49b40821,
  0xf61e2562, 0xc040b340, 0x265e5a51, 0xe9b6c7aa, 0xd62f105d, 0x02441453, 0xd8a1e681, 0xe7d3fbc8,
  0x21e1cde6, 0xc33707d6, 0xf4d50d87, 0x455a14ed, 0xa9e3e905, 0xfcefa3f8, 0x676f02d9, 0x8d2a4c8a,
  0xfffa3942, 0x8771f681, 0x6d9d6122, 0xfde5380c, 0xa4beea44, 0x4bdecfa9, 0xf6bb4b60, 0xbebfbc70,
  0x289b7ec6, 0xeaa127fa, 0xd4ef3085, 0x04881d05, 0xd9d4d039, 0xe6db99e5, 0x1fa27cf8, 0xc4ac5665,
  0xf4292244, 0x432aff97, 0xab9423a7, 0xfc93a039, 0x655b59c3, 0x8f0ccc92, 0xffeff47d, 0x85845dd1,
  0x6fa87e4f, 0xfe2ce6e0, 0xa3014314, 0x4e0811a1, 0xf7537e82, 0xbd3af235, 0x2ad7d2bb, 0xeb86d391]

/-- The rotation of each step of MD5. -/
def md5Shift (i : Nat) : UInt32 :=
  let row : Array UInt32 := match i / 16 with
    | 0 => #[7, 12, 17, 22]
    | 1 => #[5, 9, 14, 20]
    | 2 => #[4, 11, 16, 23]
    | _ => #[6, 10, 15, 21]
  row.getD (i % 4) 0

/-- The state of MD5 after one block starting at byte `base`. -/
def md5Block (msg : Array UInt8) (base : Nat) (st : UInt32 × UInt32 × UInt32 × UInt32) :
    UInt32 × UInt32 × UInt32 × UInt32 :=
  let (a0, b0, c0, d0) := st
  let (a, b, c, d) := (List.range 64).foldl (fun (a, b, c, d) i =>
    let (f, g) :=
      if i < 16 then ((b &&& c) ||| (~~~b &&& d), i)
      else if i < 32 then ((d &&& b) ||| (~~~d &&& c), (5 * i + 1) % 16)
      else if i < 48 then (b ^^^ c ^^^ d, (3 * i + 5) % 16)
      else (c ^^^ (b ||| ~~~d), (7 * i) % 16)
    let f := f + a + md5Table.getD i 0 + wordLE msg (base + 4 * g)
    (d, b + rotl32 f (md5Shift i), b, c)) (a0, b0, c0, d0)
  (a0 + a, b0 + b, c0 + c, d0 + d)

/-- The MD5 digest of a byte list. -/
def md5 (bs : List UInt8) : List UInt8 :=
  let msg := padMessage true bs
  let (a, b, c, d) := (List.range (msg.size / 64)).foldl (fun st k => md5Block msg (64 * k) st)
    (0x67452301, 0xefcdab89, 0x98badcfe, 0x10325476)
  bytesLE a ++ bytesLE b ++ bytesLE c ++ bytesLE d

end Fanout.Checksum
