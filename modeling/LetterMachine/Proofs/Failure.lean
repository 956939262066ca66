import LetterMachine.Program
import LetterMachine.Proofs.Trail

namespace LetterMachine.Machine

/-- Two machines that differ in their traces at most. -/
structure Agrees (m m' : Machine) : Prop where
  registers : m'.registers = m.registers
  ip : m'.ip = m.ip
  halted : m'.halted = m.halted
  comparison : m'.comparison = m.comparison
  output : m'.output = m.output
  emitted : m'.emitted = m.emitted
  steps : m'.steps = m.steps

theorem Agrees.refl (m : Machine) : Agrees m m := ⟨rfl, rfl, rfl, rfl, rfl, rfl, rfl⟩

theorem Agrees.symm {m a : Machine} (h : Agrees m a) : Agrees a m :=
  ⟨h.registers.symm, h.ip.symm, h.halted.symm, h.comparison.symm, h.output.symm, h.emitted.symm,
    h.steps.symm⟩

theorem Agrees.trans {m a b : Machine} (h : Agrees m a) (h' : Agrees a b) : Agrees m b :=
  ⟨h'.registers.trans h.registers, h'.ip.trans h.ip, h'.halted.trans h.halted,
    h'.comparison.trans h.comparison, h'.output.trans h.output, h'.emitted.trans h.emitted,
    h'.steps.trans h.steps⟩

theorem agrees_noted (m : Machine) (verbose : Bool) (line : Text) :
    Agrees m (m.noted verbose line) where
  registers := noted_registers verbose line m
  ip := noted_ip verbose line m
  halted := noted_halted verbose line m
  comparison := noted_comparison verbose line m
  output := noted_output verbose line m
  emitted := noted_emitted verbose line m
  steps := noted_steps verbose line m

/-- A run ends as its steps leave the machine, but for a line of the trace. -/
theorem agrees_run (code : List Instruction) (verbose : Bool) (limit : Option Int) (m : Machine) :
    Agrees (advance code verbose (allowance code limit m) m).2 (run code verbose limit m).2 := by
  unfold run
  rcases advance code verbose (allowance code limit m) m with ⟨_ | ending, m'⟩
  · cases limit with
    | none => exact .refl m'
    | some most => exact .refl m'
  · cases ending with
    | halted => exact agrees_noted m' verbose m'.haltLine
    | failed fault => exact .refl m'
    | endless => exact .refl m'

theorem Performed.eq_of_error {m m' : Machine} {a : Action} {cause : FaultCause}
    (h : Performed m a (.error cause) m') : m' = m := by
  cases h with
  | negative _ _ => rfl
  | overflow _ _ => rfl
  | divisionByZero _ => rfl

theorem Stepped.agrees_of_error {code : List Instruction} {verbose : Bool} {m m' : Machine}
    {fault : RunFault} (h : Stepped code verbose m (.error fault) m') : Agrees m m' := by
  cases h with
  | halted _ => exact .refl m
  | ipOutside _ _ => exact .refl m
  | operand _ _ _ => exact .refl m
  | unshowable _ _ _ _ => exact .refl m
  | failed _ hperform =>
      rw [hperform.eq_of_error]
      exact agrees_noted m verbose _

/-- A step that fails changes nothing but the trace. A run that fails has made successful steps up
to a machine at which the next step fails or the limit is reached, and leaves it so. -/
theorem failure_atomic (p : Program) (verbose : Bool) (m : Machine) :
    (∀ fault m', (step p.instructions verbose).run.run m = (.error fault, m') → Agrees m m') ∧
      ∀ limit fault m', run p.instructions verbose limit m = (.failed fault, m') →
        ∃ indices m₁, Trail p.instructions verbose m indices m₁ ∧ Agrees m₁ m' ∧
          ((step p.instructions verbose).run.run m₁ = (.error fault, m') ∨
            ∃ most, limit = some most ∧ most ≤ m₁.steps ∧ m₁.halted = false ∧
              fault = .stepLimit most m₁.ip) := by
  constructor
  · intro fault m' hstep
    exact (stepped_of_run hstep).agrees_of_error
  · intro limit fault m' hrun
    cases ran_of_run hrun with
    | failed htrail _ _ hstep =>
        exact ⟨_, _, htrail, (stepped_of_run hstep).agrees_of_error, .inl hstep⟩
    | @stepLimit most indices _ hlimit htrail hlength hrunning =>
        have hsteps : most ≤ m'.steps := by
          rw [htrail.steps_eq]
          omega
        exact ⟨_, _, htrail, .refl m', .inr ⟨most, hlimit, hsteps, hrunning, rfl⟩⟩

theorem failure_atomic_division :
    let p : Program := ⟨[⟨.print, 0, 0⟩, ⟨.div, 0, 1⟩, .halt], []⟩
    let fault : RunFault := .failed 1 ⟨.div, 0, 1⟩ .divisionByZero
    let stopped : Machine := (run p.instructions true none {}).2
    let again : Machine := ((step p.instructions true).run.run stopped).2
    run p.instructions true none {} = (.failed fault, stopped) ∧
      (step p.instructions true).run.run stopped = (.error fault, again) ∧
      Agrees stopped again ∧
      ∃ indices m₁, Trail p.instructions true {} indices m₁ ∧ Agrees m₁ stopped ∧
        ((step p.instructions true).run.run m₁ = (.error fault, stopped) ∨
          ∃ most, (none : Option Int) = some most ∧ most ≤ m₁.steps ∧ m₁.halted = false ∧
            fault = .stepLimit most m₁.ip) := by
  intro p fault stopped again
  have hrun : run p.instructions true none {} = (.failed fault, stopped) := by rfl
  have hstep : (step p.instructions true).run.run stopped = (.error fault, again) := by rfl
  exact ⟨hrun, hstep, (failure_atomic p true stopped).1 fault again hstep,
    (failure_atomic p true {}).2 none fault stopped hrun⟩

end LetterMachine.Machine
