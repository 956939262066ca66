import LetterMachine.Text.Basic

namespace LetterMachine.Text

/-- Whether the most significant byte of a number stands first or last. -/
inductive ByteOrder where
  | big
  | little
  deriving DecidableEq, Repr

namespace ByteOrder

/-- The number that bytes make, the last one given first. -/
def value (o : ByteOrder) (reversed : List UInt8) : Nat :=
  match o with
  | big => reversed.foldr (fun b n => n * 256 + b.toNat) 0
  | little => reversed.foldl (fun n b => n * 256 + b.toNat) 0

/-- Numbers of a width, the last one first, and the bytes of the next one, the last one first. -/
structure Gathered where
  done : List Nat := []
  group : List UInt8 := []
  deriving DecidableEq, Repr

/-- Add a byte. -/
def gather (o : ByteOrder) (width : Nat) (g : Gathered) (b : UInt8) : Gathered :=
  let group := b :: g.group
  if group.length < width then { g with group := group } else ⟨o.value group :: g.done, []⟩

/-- The numbers that bytes make in groups of a width, if no group is cut short. -/
def numbers? (o : ByteOrder) (width : Nat) (bytes : List UInt8) : Option (List Nat) :=
  let g := bytes.foldl (o.gather width) {}
  if g.group.isEmpty then some g.done.reverse else none

end ByteOrder

namespace Utf16

/-- Whether a code unit opens a pair that stands for one character. -/
def isHigh (n : Nat) : Bool := decide (0xD800 ≤ n) && decide (n < 0xDC00)

/-- Whether a code unit closes a pair. -/
def isLow (n : Nat) : Bool := decide (0xDC00 ≤ n) && decide (n < 0xE000)

/-- The character of a pair of code units. -/
def charOfPair (high low : Nat) : Char :=
  Char.ofNat (0x10000 + (high - 0xD800) * 0x400 + (low - 0xDC00))

/-- The characters read so far, the last one first, and a code unit that opens a pair and waits for
its other half. -/
structure Draft where
  done : Text := []
  pending : Option Nat := none
  deriving DecidableEq, Repr

namespace Draft

/-- Give up waiting: a half that stays alone is replaced. -/
def settled (d : Draft) : Text :=
  match d.pending with
  | none => d.done
  | some _ => '\uFFFD' :: d.done

/-- Add a character. -/
def push (d : Draft) (c : Char) : Draft := ⟨c :: d.settled, none⟩

/-- Add a code unit. -/
def pushUnit (d : Draft) (n : Nat) : Draft :=
  if isHigh n then ⟨d.settled, some n⟩
  else if isLow n then
    match d.pending with
    | some high => ⟨charOfPair high n :: d.done, none⟩
    | none => d.push '\uFFFD'
  else d.push (Char.ofNat n)

/-- The text that has been read. -/
def text (d : Draft) : Text := d.settled.reverse

end Draft

/-- The text of bytes, if there is no byte too many. -/
def decode? (o : ByteOrder) (bytes : List UInt8) : Option Text :=
  (o.numbers? 2 bytes).map fun units => (units.foldl Draft.pushUnit {}).text

end Utf16

namespace Utf32

/-- The character of a code point. A half of a pair is replaced. -/
def char (n : Nat) : Char := if 0xD800 ≤ n ∧ n < 0xE000 then '\uFFFD' else Char.ofNat n

/-- The text of bytes, if there is no byte too many and no number past the last code point. -/
def decode? (o : ByteOrder) (bytes : List UInt8) : Option Text :=
  match o.numbers? 4 bytes with
  | some ns => if ns.all (· ≤ 0x10FFFF) then some (ns.map char) else none
  | none => none

end Utf32

end LetterMachine.Text
