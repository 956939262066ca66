import LetterMachine.Opcode
import LetterMachine.Register
import LetterMachine.Report

namespace LetterMachine

def Register.letterOf (n : Int) : Except Mishap Char :=
  match Register.ofInt? n with
  | some r => .ok r.letter
  | none => .error (.notRegisterNumber n)

def Register.named (name : Text) : Except Mishap Register :=
  match Register.ofName? name with
  | some r => .ok r
  | none => .error (.notRegisterName name)

def Opcode.named (name : Text) : Except Mishap Opcode :=
  match Opcode.ofMnemonic? name with
  | some op => .ok op
  | none => .error (.notOpcode name)

end LetterMachine
