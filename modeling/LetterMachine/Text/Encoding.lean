import LetterMachine.Text.Utf8
import LetterMachine.Text.Wide

namespace LetterMachine.Text

/-- The encodings of texts. -/
inductive Encoding where
  | utf8
  | utf16 (order : ByteOrder)
  | utf32 (order : ByteOrder)
  deriving DecidableEq, Repr

namespace Encoding

/-- The byte order marks. Where one starts with another, the longer comes first. -/
def marks : List (List UInt8 × Encoding) :=
  [([0x00, 0x00, 0xFE, 0xFF], utf32 .big), ([0xFF, 0xFE, 0x00, 0x00], utf32 .little),
    ([0xFE, 0xFF], utf16 .big), ([0xFF, 0xFE], utf16 .little), ([0xEF, 0xBB, 0xBF], utf8)]

/-- The encoding of bytes without a mark, when the text starts with an ASCII character: its zero
bytes give it away. -/
def ofZeros : List UInt8 → Encoding
  | a :: b :: c :: d :: _ =>
    if a = 0 then if b = 0 then utf32 .big else utf16 .big
    else if b = 0 then if c = 0 ∧ d = 0 then utf32 .little else utf16 .little
    else utf8
  | [a, b] => if a = 0 then utf16 .big else if b = 0 then utf16 .little else utf8
  | _ => utf8

/-- The encoding of bytes, and the bytes after a mark. -/
def detect (bytes : List UInt8) : Encoding × List UInt8 :=
  match marks.find? fun m => m.1.isPrefixOf bytes with
  | some (mark, e) => (e, bytes.drop mark.length)
  | none => (ofZeros bytes, bytes)

/-- The text of bytes in an encoding. -/
def decode? (bytes : List UInt8) : Encoding → Option Text
  | utf8 => (Utf8.decode bytes).toOption
  | utf16 order => Utf16.decode? order bytes
  | utf32 order => Utf32.decode? order bytes

end Encoding

/-- The text of bytes in the encoding that they show. -/
def ofBytes? (bytes : List UInt8) : Option Text :=
  let (encoding, bytes) := Encoding.detect bytes
  encoding.decode? bytes

end LetterMachine.Text
