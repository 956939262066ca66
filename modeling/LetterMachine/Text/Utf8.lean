import LetterMachine.Text.Numeral

namespace LetterMachine.Text.Utf8

/-- Why bytes are no UTF-8 text. -/
inductive Reason where
  /-- No character starts with the byte. -/
  | start
  /-- The byte after the faulty ones cannot go on with the character they start. -/
  | continuation
  /-- The bytes end inside a character. -/
  | finished
  deriving DecidableEq, Repr

/-- The first fault in bytes: the faulty ones, from the first position up to the last, and the
byte at the first position. -/
structure Fault where
  first : Nat
  last : Nat
  byte : UInt8
  reason : Reason
  deriving DecidableEq, Repr

def Reason.message : Reason → Text
  | .start => "invalid start byte".toList
  | .continuation => "invalid continuation byte".toList
  | .finished => "unexpected end of data".toList

def Fault.message (f : Fault) : Text :=
  "'utf-8' codec can't decode ".toList ++
    (if f.first = f.last then
      "byte 0x".toList ++ hex 2 f.byte.toNat ++ " in position ".toList ++ ofNat f.first
    else
      "bytes in position ".toList ++ ofNat f.first ++ '-' :: ofNat f.last) ++
    ": ".toList ++ f.reason.message

/-- A character of which some bytes are still to come: where it started and with which byte, how
many bytes it still needs, the range of the next one, and the bits gathered so far. -/
structure Pending where
  first : Nat
  byte : UInt8
  needed : Nat
  low : Nat
  high : Nat
  bits : Nat
  deriving DecidableEq, Repr

/-- What a first byte above the ASCII range announces. The next byte is bounded so that no
character has two spellings and none lies among the surrogates or past the last code point. -/
def announce (position : Nat) (b : UInt8) : Option Pending :=
  let n := b.toNat
  if n < 0xC2 then none
  else if n < 0xE0 then some ⟨position, b, 1, 0x80, 0xBF, n - 0xC0⟩
  else if n < 0xF0 then
    some ⟨position, b, 2, if n = 0xE0 then 0xA0 else 0x80, if n = 0xED then 0x9F else 0xBF,
      n - 0xE0⟩
  else if n < 0xF5 then
    some ⟨position, b, 3, if n = 0xF0 then 0x90 else 0x80, if n = 0xF4 then 0x8F else 0xBF,
      n - 0xF0⟩
  else none

/-- Decode the bytes from a position on, after the characters `done` and inside the character
`pending`. -/
def decodeFrom (position : Nat) (done : Text) : Option Pending → List UInt8 → Except Fault Text
  | none, [] => .ok done.reverse
  | some p, [] => .error ⟨p.first, position - 1, p.byte, .finished⟩
  | none, b :: rest =>
    if b.toNat < 0x80 then
      decodeFrom (position + 1) (Char.ofNat b.toNat :: done) none rest
    else match announce position b with
      | some p => decodeFrom (position + 1) done (some p) rest
      | none => .error ⟨position, position, b, .start⟩
  | some p, b :: rest =>
    if p.low ≤ b.toNat ∧ b.toNat ≤ p.high then
      let bits := p.bits * 64 + (b.toNat - 0x80)
      if p.needed ≤ 1 then
        decodeFrom (position + 1) (Char.ofNat bits :: done) none rest
      else
        decodeFrom (position + 1) done
          (some { p with needed := p.needed - 1, low := 0x80, high := 0xBF, bits := bits }) rest
    else .error ⟨p.first, position - 1, p.byte, .continuation⟩

/-- The text of UTF-8 bytes, or the first fault in them. -/
def decode (bytes : List UInt8) : Except Fault Text := decodeFrom 0 [] none bytes

def encode (t : Text) : List UInt8 := t.flatMap String.utf8EncodeChar

end LetterMachine.Text.Utf8
