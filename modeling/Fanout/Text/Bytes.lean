import Fanout.Text.Utf8

/-!
# Byte strings

The programs of a machine see text as bytes: a name, an argument or a file holds bytes, and a
multi-byte character is as many bytes. A byte string here is a `String` with one character per
byte, each below 256, so that the operations on text (length, pattern matching, slicing) count
bytes as those programs do.

Text from the outside (the characters of a command line or of a configuration) becomes a byte
string by `encode`, which spells it in UTF-8; `decode` reads a byte string back as UTF-8 with
replacement. `encode` followed by `decode` gives the text back.
-/

namespace Fanout.Text

/-- The byte string of some bytes. -/
def ofBytes (bs : List UInt8) : String := String.ofList (bs.map fun b => Char.ofNat b.toNat)

/-- The bytes of a byte string. -/
def toBytes (s : String) : List UInt8 := s.toList.map fun c => c.toNat.toUInt8

/-- Text spelled in UTF-8, as a byte string. -/
def encode (s : String) : String := ofBytes s.toUTF8.toList

/-- A byte string read as UTF-8, replacing what is not valid. -/
def decode (s : String) : String := decodeLossy (toBytes s)

/-- A byte string read as UTF-8; none when it is not valid. -/
def decode? (s : String) : Option String := String.fromUTF8? (ByteArray.mk (toBytes s).toArray)

/-- Whether a text has only ASCII characters, which are their own bytes. -/
def isAscii (s : String) : Bool := s.toList.all fun c : Char => decide (c.toNat < 128)

@[simp] theorem toBytes_length (s : String) : (toBytes s).length = s.length := by
  simp [toBytes, String.length]

@[simp] theorem ofBytes_length (bs : List UInt8) : (ofBytes bs).length = bs.length := by
  simp [ofBytes, String.length_ofList]

end Fanout.Text
