import LetterMachine.Assembly

/-!
Listings: the instructions of a program beside the lines they were read from.
-/

namespace LetterMachine.Listing

/-- The lines of the entries that stand in a block, or outside all blocks. -/
def linesIn (entries : List SourceEntry) (block : Option Text) : List Nat :=
  (entries.filter fun e => e.block == block).map SourceEntry.line

def row (index : Nat) (line : Text) (i : Instruction) : Text :=
  Text.padLeft 5 (Text.ofNat index) ++ ' ' :: ' ' :: Text.padLeft 4 line ++ ' ' :: ' ' :: i.shown

/-- The rows of instructions beside the texts of their lines. -/
def rowsBeside (lines : List Text) (instructions : List Instruction) : List Text :=
  (lines.zip instructions).mapIdx fun n (line, i) => row n line i

/-- The rows of the instructions to run. Those after the last line have a dash. -/
def globalRows (lines : List Nat) (instructions : List Instruction) : List Text :=
  rowsBeside (lines.map Text.ofNat ++ List.replicate instructions.length ['-']) instructions

def blockRows (lines : List Nat) (b : Block) : List Text :=
  [] :: (b.directive ++ "  (line ".toList ++ Text.ofNat b.line ++ [')']) ::
    rowsBeside (lines.map Text.ofNat) b.instructions

def rows (p : Program) (entries : List SourceEntry) : List Text :=
  "Index  Line  Instruction".toList :: List.replicate 40 '-' ::
    (globalRows (linesIn entries none) p.instructions ++
      p.blocks.flatMap fun b => blockRows (linesIn entries (some b.name)) b)

/-- The listing of a program, with the lines of the given entries. -/
def render (p : Program) (entries : List SourceEntry) : Text :=
  ['\n'].intercalate (rows p entries)

end LetterMachine.Listing
