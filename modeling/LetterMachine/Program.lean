import LetterMachine.Instruction

namespace LetterMachine

/-- A named block of instructions, with the directive that opened it and the line of that
directive. -/
structure Block where
  name : Text
  directive : Text
  line : Nat
  instructions : List Instruction := []
  deriving DecidableEq, Repr

/-- The instructions to run, and the blocks in the order in which their names were first defined. -/
structure Program where
  instructions : List Instruction := []
  blocks : List Block := []
  deriving DecidableEq, Repr

def Block.endDirective : Text := ".end".toList

def Block.sourceLines (b : Block) : List Text :=
  b.directive :: (b.instructions.map Instruction.line ++ [endDirective])

namespace Program

def define (blocks : List Block) (b : Block) : List Block :=
  if blocks.any fun c => c.name == b.name then
    blocks.map fun c => if c.name = b.name then b else c
  else blocks ++ [b]

theorem define_of_fresh {blocks : List Block} {b : Block} (h : ∀ c ∈ blocks, c.name ≠ b.name) :
    define blocks b = blocks ++ [b] := by
  rw [define, if_neg]
  simpa using h

/-- The lines of source that assemble to the program: its instructions without the last, which the
assembler appends, and then its blocks. -/
def sourceLines (p : Program) : List Text :=
  p.instructions.dropLast.map Instruction.line ++ p.blocks.flatMap Block.sourceLines

def source (p : Program) : Text := ['\n'].intercalate p.sourceLines

end Program

end LetterMachine
