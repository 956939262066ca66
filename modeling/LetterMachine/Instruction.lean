import LetterMachine.Opcode
import LetterMachine.Text.Numeral

namespace LetterMachine

/-- An operation with its two operands. An operand that the operation does not use is zero in every
instruction read from source; instructions built in other ways may hold any integers. -/
structure Instruction where
  opcode : Opcode
  dest : Int := 0
  src : Int := 0
  deriving DecidableEq, Repr

namespace Instruction

/-- The instruction that ends every assembled program. -/
def halt : Instruction := ⟨.halt, 0, 0⟩

def operands (i : Instruction) : List Int := [i.dest, i.src].take i.opcode.arity

/-- The instruction as it is shown in listings, traces and messages. -/
def shown (i : Instruction) : Text :=
  if i.operands.isEmpty then i.opcode.mnemonic
  else i.opcode.mnemonic ++ '(' :: ([',', ' '].intercalate (i.operands.map Text.ofInt) ++ [')'])

/-- The tokens of the instruction as a line of source. -/
def tokens (i : Instruction) : List Text := i.opcode.mnemonic :: i.operands.map Text.ofInt

def line (i : Instruction) : Text := [' '].intercalate i.tokens

end Instruction

end LetterMachine
