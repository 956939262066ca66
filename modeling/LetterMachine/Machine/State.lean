import LetterMachine.Register
import LetterMachine.Text.Numeral

namespace LetterMachine

/-- What a machine shows to its surroundings while it runs. -/
inductive Event where
  /-- A line that the program puts out. -/
  | output (line : Text)
  /-- A line of the trace. -/
  | trace (line : Text)
  deriving DecidableEq, Repr

/-- The line of an event. -/
def Event.line : Event → Text
  | output line => line
  | trace line => line

/-- The line of an event that the program put out. -/
def Event.output? : Event → Option Text
  | output line => some line
  | trace _ => none

/-- The line of an event of the trace. -/
def Event.trace? : Event → Option Text
  | output _ => none
  | trace line => some line

/-- The registers, the index of the next instruction, the verdict of the last comparison, the lines
put out so far, the number of instructions executed so far, and all that was shown. -/
structure Machine where
  registers : Vector Int 26 := Vector.replicate 26 0
  ip : Int := 0
  halted : Bool := false
  comparison : Option Ordering := none
  output : Array Text := #[]
  steps : Nat := 0
  feed : Array Event := #[]
  deriving DecidableEq, Repr

namespace Machine

/-- The value of a register. -/
def read (m : Machine) (r : Register) : Int := m.registers[r]

/-- The machine with another value in a register. -/
def write (m : Machine) (r : Register) (value : Int) : Machine :=
  { m with registers := m.registers.set r value }

theorem read_write (m : Machine) (r s : Register) (value : Int) :
    (m.write r value).read s = if r = s then value else m.read s := by
  simp [read, write, Vector.getElem_set, Fin.ext_iff]

/-- The letters of the registers with their values. -/
def dump (m : Machine) : List (Char × Int) := Register.all.map fun r => (r.letter, m.read r)

/-- The machine with nothing shown. -/
def forget (m : Machine) : Machine := { m with feed := #[] }

/-- The lines that the program put out, among all that was shown. -/
def emitted (m : Machine) : List Text := m.feed.toList.filterMap Event.output?

/-- The lines of the trace, among all that was shown. -/
def traced (m : Machine) : List Text := m.feed.toList.filterMap Event.trace?

/-- The word for the verdict of a comparison. -/
def verdict : Ordering → Text
  | .lt => "LESS".toList
  | .eq => "EQUAL".toList
  | .gt => "GREATER".toList

end Machine

end LetterMachine
