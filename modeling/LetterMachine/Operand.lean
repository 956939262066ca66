import LetterMachine.Register
import LetterMachine.Text.Numeral

/-!
Operands: how a token is read as a number of sixteen bits. A binary literal comes first, a decimal
literal second, and a register letter last.
-/

namespace LetterMachine

/-- What is wrong with a line of source. -/
inductive LineFault where
  /-- A token with a binary marker whose digits are not binary. -/
  | notBinary (token : Text)
  /-- A binary literal of more than sixteen bits. -/
  | binaryTooLarge (token : Text)
  /-- A token that is neither a number nor starts with a letter, where that is asked for. -/
  | unresolved (token : Text)
  /-- A decimal literal with more digits than are converted. -/
  | longNumeral (digits : Nat)
  /-- A line without a mnemonic. -/
  | empty
  /-- A token that names no operation. -/
  | unknownInstruction (token : Text)
  /-- An exponent of more than eight bits. -/
  | exponentTooLarge (exponent : Nat)
  /-- An end where no block is open. -/
  | endWithoutBlock
  /-- A directive inside a block. -/
  | nested (directive outer : Text)
  /-- A directive whose name a block before it has. -/
  | duplicate (directive : Text)
  /-- A block without an end. -/
  | unterminated (directive : Text)
  deriving DecidableEq, Repr

namespace Operand

def isMarker (c : Char) : Bool := c == 'b' || c == 'B'

/-- Scan the rest of a token for a digit right after a marker, which may be the character before
the rest. -/
def scanMarked (found : Bool) : Text → Bool
  | [] => false
  | c :: rest =>
    if found && c.isDigit then true
    -- what is no digit after a marker starts the scan over, and may be a marker itself
    else scanMarked (isMarker c) rest

/-- Whether a digit stands right after a marker anywhere in the token. -/
def hasMarkedDigit (token : Text) : Bool := scanMarked false token

/-- The value of a decimal literal: one plus sign may stand before the digits, and a value of more
than sixteen bits is none. -/
def decimal? (token : Text) : Except LineFault (Option Nat) :=
  let digits := if token.head? = some '+' then token.tail else token
  if digits.isEmpty || !digits.all Char.isDigit then .ok none
  else if Text.maxDigits < digits.length then .error (.longNumeral digits.length)
  else
    let value := Nat.ofDigitChars 10 digits 0
    .ok (if value ≤ Register.maxValue then some value else none)

/-- The value of a binary literal: the digits after the marker, at most sixteen bits. -/
def binary (token : Text) : Except LineFault Nat :=
  let digits := token.tail
  if digits.isEmpty || !digits.all fun c => c == '0' || c == '1' then .error (.notBinary token)
  else
    let value := Nat.ofDigitChars 2 digits 0
    if value ≤ Register.maxValue then .ok value else .error (.binaryTooLarge token)

def register (strict : Bool) (token : Text) : Except LineFault Nat :=
  match Register.ofToken? token with
  | some r => .ok r.val
  | none => if strict then .error (.unresolved token) else .ok 0

/-- Whether a token is read as a binary literal: it starts with a marker, and a digit follows a
marker somewhere. -/
def isBinary (token : Text) : Bool := token.head?.any isMarker && hasMarkedDigit token

def read (strict : Bool) (token : Text) : Except LineFault Nat :=
  if isBinary token then binary token
  else do
    match ← decimal? token with
    | some value => pure value
    | none => register strict token

/-- The source of a move: a value to load, or a register to copy. -/
inductive Source where
  | literal (value : Nat)
  | register (number : Nat)
  deriving DecidableEq, Repr

/-- The source of a move is a value if it is a decimal literal, and otherwise a register. -/
def readSource (strict : Bool) (token : Text) : Except LineFault Source := do
  match ← decimal? token with
  | some value => pure (.literal value)
  | none => return .register (← register strict token)

end Operand

end LetterMachine
