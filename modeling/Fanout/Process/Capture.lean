import Fanout.Process.Watch
import Fanout.Count

/-!
# Keeping the tail of a stream

The supervisor keeps the tail of each of the child's streams in a `TailBuffer`, pushing every
chunk it reads. A UTF-8 character takes at most four bytes, so the last `4 * maxChars + 3`
bytes of a stream hold its last `maxChars` characters and at most one cut character before
them. The buffer keeps at least that many bytes (`keep`, in saturating word arithmetic) and
lets them grow to twice as many before it drops the excess, so that a push costs time in
proportion to its chunk. At the end it decodes its bytes with replacement and gives the last
`maxChars` characters.

The bound `keep * 2` is a checked product of words: a `keep` of `2^63` or more, which a
`maxChars` of `2^61` or more gives, stops the first push of a chunk shorter than `keep`. A
supervisor whose buffer stops stops with it (`captureFault`).
-/

namespace Fanout

/-- The message of a product that leaves the word range. -/
def Abort.mulOverflow : Abort := ⟨"attempt to multiply with overflow"⟩

/-- The product of two counts, refused when it exceeds `wordMax`. -/
def mulCounts (a b : Nat) : Except Abort Nat :=
  if a * b ≤ wordMax then .ok (a * b) else .error Abort.mulOverflow

/-- A count held at `wordMax` when it would leave the word range. -/
def satWord (n : Nat) : Nat := min n wordMax

/-- A buffer that keeps the tail of a byte stream: the bytes it holds, how many of the last
ones it must keep, and how many characters it gives at the end. -/
structure TailBuffer where
  bytes : List UInt8
  keep : Nat
  maxChars : Nat
  deriving Inhabited, Repr, DecidableEq

namespace TailBuffer

/-- The bytes kept for `maxChars` characters: none for none, else `4 * maxChars + 3`, held at
`wordMax`. -/
def keepFor (maxChars : Nat) : Nat :=
  if maxChars = 0 then 0 else satWord (satWord (maxChars * 4) + 3)

/-- An empty buffer for the last `maxChars` characters. -/
def new (maxChars : Nat) : TailBuffer := { bytes := [], keep := keepFor maxChars, maxChars }

/-- Push a chunk. A chunk of `keep` bytes or more replaces the bytes by its last `keep`; a
shorter one is appended, and when the bytes then pass twice `keep` only the last `keep` stay. -/
def push (b : TailBuffer) (chunk : List UInt8) : Except Abort TailBuffer :=
  if b.keep = 0 then .ok b
  else if b.keep ≤ chunk.length then .ok { b with bytes := chunk.drop (chunk.length - b.keep) }
  else do
    let bytes := b.bytes ++ chunk
    let limit ← mulCounts b.keep 2
    if limit < bytes.length then .ok { b with bytes := bytes.drop (bytes.length - b.keep) }
    else .ok { b with bytes }

/-- The last `maxChars` characters of the bytes, decoded with replacement. -/
def intoString (b : TailBuffer) : String :=
  let text := Text.decodeLossy b.bytes
  let count := text.length
  if count ≤ b.maxChars then text else String.ofList (text.toList.drop (count - b.maxChars))

end TailBuffer

/-- The chunks a stream's reader pushes: the bytes of each read, up to the end of the stream
or a failure. -/
def pushedChunks : List Read → List (List UInt8)
  | [] => []
  | .data [] :: _ => []
  | .data (b :: bs) :: rs => (b :: bs) :: pushedChunks rs
  | .failed :: _ => []

/-- The tail of a stream read as `reads`, kept for its last `maxChars` characters. -/
def capture (maxChars : Nat) (reads : List Read) : Except Abort String :=
  ((pushedChunks reads).foldlM TailBuffer.push (TailBuffer.new maxChars)).map
    TailBuffer.intoString

/-- How capturing the streams of a child supervised through `trace` stops, if it does: at a
chunk that a buffer refuses, of either stream. Either stops with the same message. -/
def captureFault (maxChars : Nat) (trace : List (List Ready)) : Option Abort :=
  let stream (f : Ready → Option Read) := capture maxChars (trace.flatten.filterMap f)
  match stream Ready.stdoutRead, stream Ready.stderrRead with
  | .error a, _ => some a
  | _, .error a => some a
  | _, _ => none

end Fanout
