import Fanout.Checksum.Md5

/-!
# SHA-1 and SHA-2

The secure hash algorithms of FIPS 180-4 on byte lists. Messages are padded as for MD5 but with
a big-endian length; blocks are read as big-endian words.

The constants of SHA-2 are not copied as tables but derived as the standard derives them: the
round constants are the first bits of the fractional parts of the cube roots of the first
primes, and the initial states those of the square roots (of the first eight primes for
SHA-224's larger siblings, of the ninth to sixteenth for SHA-224 and SHA-384). Integer roots of
scaled primes give those bits exactly.
-/

namespace Fanout.Checksum

/-- The largest `r` with `r ^ k ≤ n`, found bit by bit from bit `b` down. -/
def rootFloor (k n : Nat) : Nat → Nat → Nat
  | 0, r => r
  | b + 1, r =>
    let t := r + 2 ^ b
    rootFloor k n b (if t ^ k ≤ n then t else r)

/-- The first `count` primes. -/
def firstPrimes (count : Nat) : List Nat :=
  let isPrime (n : Nat) : Bool := n ≥ 2 && (List.range (n - 2)).all fun d => n % (d + 2) != 0
  ((List.range 420).filter isPrime).take count

/-- The first `bits` bits of the fractional part of the `k`-th root of `p`. -/
def rootFraction (k bits p : Nat) : Nat :=
  rootFloor k (p * Nat.pow 2 (k * bits)) (bits + 8) 0 % Nat.pow 2 bits

/-- The big-endian word at byte `i`. -/
def wordBE (a : Array UInt8) (i : Nat) : UInt32 :=
  ((a.getD i 0).toUInt32 <<< 24) ||| ((a.getD (i + 1) 0).toUInt32 <<< 16) |||
    ((a.getD (i + 2) 0).toUInt32 <<< 8) ||| (a.getD (i + 3) 0).toUInt32

/-- The big-endian 64-bit word at byte `i`. -/
def word64BE (a : Array UInt8) (i : Nat) : UInt64 :=
  (List.range 8).foldl (fun w j => (w <<< 8) ||| (a.getD (i + j) 0).toUInt64) 0

/-- The bytes of a word, big-endian. -/
def bytesBE (w : UInt32) : List UInt8 := (bytesLE w).reverse

/-- The bytes of a 64-bit word, big-endian. -/
def bytes64BE (w : UInt64) : List UInt8 :=
  (List.range 8).reverse.map fun i => (w >>> (8 * i).toUInt64).toUInt8

/-- The message padded for a 128-byte block: a `0x80` byte, zeros, and the length in bits as
sixteen big-endian bytes. -/
def padMessage128 (bs : List UInt8) : Array UInt8 :=
  let n := bs.length
  let zeros := (239 - n % 128) % 128
  let bits := n * 8
  let lenBytes := (List.range 16).reverse.map fun i => (bits >>> (8 * i)).toUInt8
  (bs ++ [0x80] ++ List.replicate zeros 0 ++ lenBytes).toArray

/-! ## SHA-1 -/

/-- The state of SHA-1 after one block starting at byte `base`. -/
def sha1Block (msg : Array UInt8) (base : Nat) (h : Array UInt32) : Array UInt32 :=
  let w0 := (List.range 16).map fun i => wordBE msg (base + 4 * i)
  let w := (List.range 64).foldl (fun (ws : Array UInt32) i =>
    let j := i + 16
    ws.push (rotl32 (ws.getD (j - 3) 0 ^^^ ws.getD (j - 8) 0 ^^^ ws.getD (j - 14) 0 ^^^
      ws.getD (j - 16) 0) 1)) w0.toArray
  let (a, b, c, d, e) := (List.range 80).foldl (fun (a, b, c, d, e) i =>
    let (f, k) : UInt32 × UInt32 :=
      if i < 20 then ((b &&& c) ||| (~~~b &&& d), 0x5A827999)
      else if i < 40 then (b ^^^ c ^^^ d, 0x6ED9EBA1)
      else if i < 60 then ((b &&& c) ||| (b &&& d) ||| (c &&& d), 0x8F1BBCDC)
      else (b ^^^ c ^^^ d, 0xCA62C1D6)
    let t := rotl32 a 5 + f + e + k + w.getD i 0
    (t, a, rotl32 b 30, c, d)) (h.getD 0 0, h.getD 1 0, h.getD 2 0, h.getD 3 0, h.getD 4 0)
  #[h.getD 0 0 + a, h.getD 1 0 + b, h.getD 2 0 + c, h.getD 3 0 + d, h.getD 4 0 + e]

/-- The SHA-1 digest of a byte list. -/
def sha1 (bs : List UInt8) : List UInt8 :=
  let msg := padMessage false bs
  let h := (List.range (msg.size / 64)).foldl (fun h k => sha1Block msg (64 * k) h)
    #[0x67452301, 0xEFCDAB89, 0x98BADCFE, 0x10325476, 0xC3D2E1F0]
  h.toList.flatMap bytesBE

/-! ## SHA-224 and SHA-256 -/

/-- Rotate a word right. -/
def rotr32 (x n : UInt32) : UInt32 := (x >>> n) ||| (x <<< (32 - n))

/-- The 64 round constants of SHA-256. -/
def sha256Constants : Array UInt32 :=
  ((firstPrimes 64).map fun p => (rootFraction 3 32 p).toUInt32).toArray

/-- The state of SHA-256 after one block starting at byte `base`. -/
def sha256Block (ks : Array UInt32) (msg : Array UInt8) (base : Nat) (h : Array UInt32) :
    Array UInt32 :=
  let w0 := (List.range 16).map fun i => wordBE msg (base + 4 * i)
  let w := (List.range 48).foldl (fun (ws : Array UInt32) i =>
    let j := i + 16
    let x := ws.getD (j - 15) 0
    let y := ws.getD (j - 2) 0
    let s0 := rotr32 x 7 ^^^ rotr32 x 18 ^^^ (x >>> 3)
    let s1 := rotr32 y 17 ^^^ rotr32 y 19 ^^^ (y >>> 10)
    ws.push (ws.getD (j - 16) 0 + s0 + ws.getD (j - 7) 0 + s1)) w0.toArray
  let v := (List.range 64).foldl (fun (v : Array UInt32) i =>
    let a := v.getD 0 0
    let b := v.getD 1 0
    let c := v.getD 2 0
    let d := v.getD 3 0
    let e := v.getD 4 0
    let f := v.getD 5 0
    let g := v.getD 6 0
    let hh := v.getD 7 0
    let s1 := rotr32 e 6 ^^^ rotr32 e 11 ^^^ rotr32 e 25
    let ch := (e &&& f) ^^^ (~~~e &&& g)
    let t1 := hh + s1 + ch + ks.getD i 0 + w.getD i 0
    let s0 := rotr32 a 2 ^^^ rotr32 a 13 ^^^ rotr32 a 22
    let maj := (a &&& b) ^^^ (a &&& c) ^^^ (b &&& c)
    let t2 := s0 + maj
    #[t1 + t2, a, b, c, d + t1, e, f, g]) h
  (h.zip v).map fun (x, y) => x + y

/-- The SHA-256 digest (or, from SHA-224's start and cut to 28 bytes, the SHA-224 digest). -/
def sha256With (start : Array UInt32) (size : Nat) (bs : List UInt8) : List UInt8 :=
  let ks := sha256Constants
  let msg := padMessage false bs
  let h := (List.range (msg.size / 64)).foldl (fun h k => sha256Block ks msg (64 * k) h) start
  (h.toList.flatMap bytesBE).take size

/-- The SHA-256 digest of a byte list. -/
def sha256 (bs : List UInt8) : List UInt8 :=
  sha256With ((firstPrimes 8).map fun p => (rootFraction 2 32 p).toUInt32).toArray 32 bs

/-- The SHA-224 digest of a byte list. -/
def sha224 (bs : List UInt8) : List UInt8 :=
  sha256With (((firstPrimes 16).drop 8).map fun p => (rootFraction 2 64 p).toUInt32).toArray 28 bs

/-! ## SHA-384 and SHA-512 -/

/-- Rotate a 64-bit word right. -/
def rotr64 (x n : UInt64) : UInt64 := (x >>> n) ||| (x <<< (64 - n))

/-- The state of SHA-512 after one block starting at byte `base`. -/
def sha512Block (ks : Array UInt64) (msg : Array UInt8) (base : Nat) (h : Array UInt64) :
    Array UInt64 :=
  let w0 := (List.range 16).map fun i => word64BE msg (base + 8 * i)
  let w := (List.range 64).foldl (fun (ws : Array UInt64) i =>
    let j := i + 16
    let x := ws.getD (j - 15) 0
    let y := ws.getD (j - 2) 0
    let s0 := rotr64 x 1 ^^^ rotr64 x 8 ^^^ (x >>> 7)
    let s1 := rotr64 y 19 ^^^ rotr64 y 61 ^^^ (y >>> 6)
    ws.push (ws.getD (j - 16) 0 + s0 + ws.getD (j - 7) 0 + s1)) w0.toArray
  let v := (List.range 80).foldl (fun (v : Array UInt64) i =>
    let a := v.getD 0 0
    let b := v.getD 1 0
    let c := v.getD 2 0
    let d := v.getD 3 0
    let e := v.getD 4 0
    let f := v.getD 5 0
    let g := v.getD 6 0
    let hh := v.getD 7 0
    let s1 := rotr64 e 14 ^^^ rotr64 e 18 ^^^ rotr64 e 41
    let ch := (e &&& f) ^^^ (~~~e &&& g)
    let t1 := hh + s1 + ch + ks.getD i 0 + w.getD i 0
    let s0 := rotr64 a 28 ^^^ rotr64 a 34 ^^^ rotr64 a 39
    let maj := (a &&& b) ^^^ (a &&& c) ^^^ (b &&& c)
    let t2 := s0 + maj
    #[t1 + t2, a, b, c, d + t1, e, f, g]) h
  (h.zip v).map fun (x, y) => x + y

/-- The SHA-512 digest from a start state, cut to `size` bytes. -/
def sha512With (start : Array UInt64) (size : Nat) (bs : List UInt8) : List UInt8 :=
  let ks := ((firstPrimes 80).map fun p => (rootFraction 3 64 p).toUInt64).toArray
  let msg := padMessage128 bs
  let h := (List.range (msg.size / 128)).foldl (fun h k => sha512Block ks msg (128 * k) h) start
  (h.toList.flatMap bytes64BE).take size

/-- The SHA-512 digest of a byte list. -/
def sha512 (bs : List UInt8) : List UInt8 :=
  sha512With ((firstPrimes 8).map fun p => (rootFraction 2 64 p).toUInt64).toArray 64 bs

/-- The SHA-384 digest of a byte list. -/
def sha384 (bs : List UInt8) : List UInt8 :=
  sha512With (((firstPrimes 16).drop 8).map fun p => (rootFraction 2 64 p).toUInt64).toArray 48 bs

end Fanout.Checksum
