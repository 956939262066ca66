import LetterMachine.Instruction
import LetterMachine.Register

namespace LetterMachine

inductive FaultCause where
  /-- An operand that names no register. -/
  | invalidRegister (operand : Int)
  /-- A jump past the ends of the program. -/
  | targetOutside (operand : Int)
  /-- A result below zero. -/
  | negativeResult
  | divisionByZero
  /-- A result that does not fit in a register. -/
  | overflow (value : Int)
  deriving DecidableEq, Repr

/-- An operation on registers of the machine. -/
inductive Action where
  | add (dest src : Register)
  | sub (dest src : Register)
  | mul (dest src : Register)
  | div (dest src : Register)
  | load (dest : Register) (value : Int)
  | copy (dest src : Register)
  | swap (left right : Register)
  | clear (dest : Register)
  | decrement (dest : Register)
  | increment (dest : Register)
  | compare (left right : Register)
  | power (dest : Register) (exponent : Int)
  | print (register : Register)
  | jump (target : Int)
  | halt
  deriving DecidableEq, Repr

namespace Action

def register (operand : Int) : Except FaultCause Register :=
  match Register.ofInt? operand with
  | some r => .ok r
  | none => .error (.invalidRegister operand)

/-- A jump to an instruction of a program of the given length. -/
def jumpTo (length : Nat) (operand : Int) : Except FaultCause Action :=
  if 0 ≤ operand ∧ operand < length then .ok (.jump operand) else .error (.targetOutside operand)

/-- The action of an instruction in a program of the given length. The first operand is checked
before the second. -/
def ofInstruction (length : Nat) (i : Instruction) : Except FaultCause Action := do
  match i.opcode with
  | .add => return .add (← register i.dest) (← register i.src)
  | .sub => return .sub (← register i.dest) (← register i.src)
  | .mul => return .mul (← register i.dest) (← register i.src)
  | .div => return .div (← register i.dest) (← register i.src)
  | .mov => return .load (← register i.dest) i.src
  | .movr => return .copy (← register i.dest) (← register i.src)
  | .swap => return .swap (← register i.dest) (← register i.src)
  | .clr => return .clear (← register i.dest)
  | .dec => return .decrement (← register i.dest)
  | .inc => return .increment (← register i.dest)
  | .cmp => return .compare (← register i.dest) (← register i.src)
  | .pow => return .power (← register i.dest) i.src
  | .print => return .print (← register i.dest)
  | .jmp => jumpTo length i.dest
  | .halt => return .halt

end Action

end LetterMachine
