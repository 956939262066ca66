import LetterMachine.Instruction
import LetterMachine.Operand

namespace LetterMachine

namespace Decoding

/-- The exponents that an instruction can hold lie below this number. -/
def exponentLimit : Nat := 256

/-- A token of a line, or the token of zero where the line is too short. -/
def tokenAt (tokens : List Text) (n : Nat) : Text := tokens[n]?.getD ['0']

/-- The instruction with two operands read by the common rule. Both are read even if the operation
does not use them. -/
def common (strict : Bool) (op : Opcode) (tokens : List Text) : Except LineFault Instruction := do
  let dest ← Operand.read strict (tokenAt tokens 1)
  let src ← Operand.read strict (tokenAt tokens 2)
  return ⟨op, if op.arity < 1 then 0 else dest, if op.arity < 2 then 0 else src⟩

/-- A move loads a decimal literal and copies any other source. Without a source it loads zero. -/
def move (strict : Bool) (tokens : List Text) : Except LineFault Instruction := do
  let dest ← Operand.read strict (tokenAt tokens 1)
  match tokens[2]? with
  | none => return ⟨.mov, dest, 0⟩
  | some token =>
    match ← Operand.readSource strict token with
    | .literal value => return ⟨.mov, dest, value⟩
    | .register number => return ⟨.movr, dest, number⟩

/-- The exponent of a power has at most eight bits. -/
def power (strict : Bool) (tokens : List Text) : Except LineFault Instruction := do
  let dest ← Operand.read strict (tokenAt tokens 1)
  let exponent ← Operand.read strict (tokenAt tokens 2)
  if exponent < exponentLimit then return ⟨.pow, dest, exponent⟩
  else throw (.exponentTooLarge exponent)

end Decoding

/-- The instruction that the tokens of a line stand for. -/
def Instruction.ofTokens (strict : Bool) (tokens : List Text) : Except LineFault Instruction :=
  match tokens with
  | [] => .error .empty
  | head :: _ =>
    match Opcode.ofToken? head with
    | none => .error (.unknownInstruction head)
    | some .mov => Decoding.move strict tokens
    | some .pow => Decoding.power strict tokens
    | some op => Decoding.common strict op tokens

end LetterMachine
