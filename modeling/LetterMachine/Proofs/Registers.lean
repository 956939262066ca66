import LetterMachine.Program
import LetterMachine.Proofs.Call

namespace LetterMachine.Machine

/-- Every register holds a value of the given kind. -/
def Holds (V : Int → Prop) (m : Machine) : Prop := ∀ r, V (m.read r)

section Holds

variable {V : Int → Prop} {m m' : Machine}

theorem Holds.write (hm : Holds V m) {value : Int} (r : Register) (hvalue : V value) :
    Holds V (m.write r value) := by
  intro s
  rw [read_write]
  split
  · exact hvalue
  · exact hm s

theorem Holds.noted (hm : Holds V m) (verbose : Bool) (line : Text) :
    Holds V (m.noted verbose line) := by
  intro r
  rw [noted_read]
  exact hm r

theorem Holds.performed (hwords : ∀ value : Int, 0 ≤ value → value ≤ Register.maxValue → V value)
    (hm : Holds V m) {a : Action} {result : Except FaultCause (Option Int)}
    (h : Performed m a result m') : Holds V m' := by
  cases h with
  | negative _ _ => exact hm
  | overflow _ _ => exact hm
  | divisionByZero _ => exact hm
  | stored _ hlow hhigh => exact hm.write _ (hwords _ hlow hhigh)
  | swap left right =>
      have hleft := hm.write left (hm right)
      exact hleft.write right (hm left)
  | compare left right => exact hm
  | print r => exact hm
  | jump target => exact hm
  | halt => exact hm

/-- Registers that hold words, and perhaps other values, hold no values but these ever after. -/
theorem kept_holds (hwords : ∀ value : Int, 0 ≤ value → value ≤ Register.maxValue → V value)
    (code : List Instruction) (verbose : Bool) : Kept code verbose (Holds V) where
  step hm hstepped := by
    cases hstepped with
    | halted _ => exact hm
    | ipOutside _ _ => exact hm
    | operand _ _ _ => exact hm
    | unshowable _ _ _ _ => exact hm
    | failed _ hperform => exact (hm.noted verbose _).performed hwords hperform
    | done _ hperform =>
        have hperformed := (hm.noted verbose _).performed hwords hperform
        exact fun r => hperformed r
  noted line hm := hm.noted verbose line

end Holds

/-- Every register holds a word. -/
def InRange (m : Machine) : Prop := ∀ r, 0 ≤ m.read r ∧ m.read r ≤ Register.maxValue

theorem inRange_new : InRange {} := by
  intro r
  have hread : ({} : Machine).read r = 0 := by simp [read]
  rw [hread]
  exact ⟨Int.le_refl 0, by decide⟩

theorem InRange.noted {m : Machine} (hm : InRange m) (verbose : Bool) (line : Text) :
    InRange (m.noted verbose line) :=
  Holds.noted (V := fun value => 0 ≤ value ∧ value ≤ Register.maxValue) hm verbose line

theorem kept_inRange (code : List Instruction) (verbose : Bool) : Kept code verbose InRange :=
  kept_holds (V := fun value => 0 ≤ value ∧ value ≤ Register.maxValue)
    (fun _ hlow hhigh => ⟨hlow, hhigh⟩) code verbose

theorem InRange.mem_registers {m : Machine} (hm : InRange m) {value : Int}
    (hvalue : value ∈ m.registers.toList) : 0 ≤ value ∧ value ≤ Register.maxValue := by
  obtain ⟨n, hn, rfl⟩ := Vector.getElem_of_mem (Vector.mem_toList_iff.mp hvalue)
  exact hm ⟨n, hn⟩

/-- Whatever is asked of a new machine, it has twenty-six registers that hold words. -/
theorem registers_after_calls (p : Program) (verbose : Bool) (calls : List Call) :
    let m := afterCalls p.instructions verbose calls {}
    m.registers.toList.length = 26 ∧ ∀ value ∈ m.registers.toList, 0 ≤ value ∧ value ≤ 65535 := by
  intro m
  have hm : InRange m := (kept_inRange p.instructions verbose).afterCalls calls inRange_new
  exact ⟨Vector.length_toList, fun value hvalue => hm.mem_registers hvalue⟩

end LetterMachine.Machine
