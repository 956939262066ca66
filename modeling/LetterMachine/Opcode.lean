import LetterMachine.Text.LetterCase

namespace LetterMachine

/-- What an operand stands for when its instruction is executed. -/
inductive OperandKind where
  /-- The number of a register. -/
  | register
  /-- A value. -/
  | immediate
  /-- The index of an instruction. -/
  | target
  deriving DecidableEq, Repr

/-- The operations. `mov` loads a value and `movr` copies a register; one mnemonic of the source
stands for both. -/
inductive Opcode where
  | add
  | sub
  | mul
  | div
  | mov
  | movr
  | swap
  | clr
  | dec
  | inc
  | cmp
  | pow
  | print
  | jmp
  | halt
  deriving DecidableEq, Repr

namespace Opcode

/-- The operations in the order in which they are listed. -/
def all : List Opcode :=
  [add, sub, mul, div, mov, movr, swap, clr, dec, inc, cmp, pow, print, jmp, halt]

def mnemonic : Opcode → Text
  | add => "ADD".toList
  | sub => "SUB".toList
  | mul => "MUL".toList
  | div => "DIV".toList
  | mov => "MOV".toList
  | movr => "MOVR".toList
  | swap => "SWAP".toList
  | clr => "CLR".toList
  | dec => "DEC".toList
  | inc => "INC".toList
  | cmp => "CMP".toList
  | pow => "POW".toList
  | print => "PRINT".toList
  | jmp => "JMP".toList
  | halt => "HALT".toList

/-- The kinds of the operands an operation uses, in order. -/
def operandKinds : Opcode → List OperandKind
  | add | sub | mul | div | movr | swap | cmp => [.register, .register]
  | mov | pow => [.register, .immediate]
  | clr | dec | inc | print => [.register]
  | jmp => [.target]
  | halt => []

def arity (op : Opcode) : Nat := op.operandKinds.length

theorem arity_le_two (op : Opcode) : op.arity ≤ 2 := by cases op <;> decide

def ofMnemonic? (name : Text) : Option Opcode := all.find? fun op => op.mnemonic == name

/-- The operation that a token names, in any letter case. -/
def ofToken? (token : Text) : Option Opcode := ofMnemonic? token.upper

theorem ofMnemonic?_mnemonic (op : Opcode) : ofMnemonic? op.mnemonic = some op := by
  cases op <;> decide

theorem ofMnemonic?_eq_some_iff (name : Text) (op : Opcode) :
    ofMnemonic? name = some op ↔ op.mnemonic = name := by
  constructor
  · intro h
    simpa using List.find?_some h
  · rintro rfl
    exact ofMnemonic?_mnemonic op

end Opcode

end LetterMachine
