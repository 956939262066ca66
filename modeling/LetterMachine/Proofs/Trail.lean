import LetterMachine.Machine.Run
import LetterMachine.Proofs.Step

namespace LetterMachine.Machine

variable {code : List Instruction} {verbose : Bool}

/-- Successful steps lead from one machine to another, at the given indices. -/
inductive Trail (code : List Instruction) (verbose : Bool) : Machine → List Int → Machine → Prop
  | nil (m : Machine) : Trail code verbose m [] m
  | cons {m m₁ m' : Machine} {indices : List Int}
      (hstep : (step code verbose).run.run m = (.ok (), m₁))
      (hrest : Trail code verbose m₁ indices m') : Trail code verbose m (m.ip :: indices) m'

theorem Trail.append {m m₁ m' : Machine} {front back : List Int}
    (hfront : Trail code verbose m front m₁) (hback : Trail code verbose m₁ back m') :
    Trail code verbose m (front ++ back) m' := by
  induction hfront with
  | nil m => exact hback
  | cons hstep _ ih => exact .cons hstep (ih hback)

theorem Trail.invariant {P : Machine → Prop}
    (hkeep : ∀ m m', P m → (step code verbose).run.run m = (.ok (), m') → P m')
    {m m' : Machine} {indices : List Int} (htrail : Trail code verbose m indices m') (hm : P m) :
    P m' := by
  induction htrail with
  | nil m => exact hm
  | cons hstep _ ih => exact ih (hkeep _ _ hm hstep)

theorem Trail.eq_nil_of_halted {m m' : Machine} {indices : List Int}
    (htrail : Trail code verbose m indices m') (hhalted : m.halted = true) :
    indices = [] ∧ m' = m := by
  cases htrail with
  | nil m => exact ⟨rfl, rfl⟩
  | cons hstep _ =>
      rw [run_step, if_pos hhalted] at hstep
      cases hstep

theorem Performed.steps_eq {m m' : Machine} {a : Action} {result : Except FaultCause (Option Int)}
    (h : Performed m a result m') : m'.steps = m.steps := by
  cases h <;> rfl

theorem Performed.ip_eq {m m' : Machine} {a : Action} {result : Except FaultCause (Option Int)}
    (h : Performed m a result m') : m'.ip = m.ip := by
  cases h <;> rfl

theorem running_of_step {m m' : Machine} (hstep : (step code verbose).run.run m = (.ok (), m')) :
    m.halted = false := by
  cases stepped_of_run hstep with
  | done hready _ => exact hready.running

theorem steps_of_step {m m' : Machine} (hstep : (step code verbose).run.run m = (.ok (), m')) :
    m'.steps = m.steps + 1 := by
  cases stepped_of_run hstep with
  | done hready hperform => simp [hperform.steps_eq]

theorem Trail.steps_eq {m m' : Machine} {indices : List Int}
    (htrail : Trail code verbose m indices m') : m'.steps = m.steps + indices.length := by
  induction htrail with
  | nil m => rfl
  | cons hstep _ ih =>
      rw [ih, steps_of_step hstep, List.length_cons]
      omega

/-- The ways in which a machine that may make `n` steps ends. -/
inductive Advanced (code : List Instruction) (verbose : Bool) (n : Nat) (m : Machine) :
    Option Ending → Machine → Prop
  | halted {indices : List Int} {m' : Machine} (htrail : Trail code verbose m indices m')
      (hlength : indices.length ≤ n) (hhalted : m'.halted = true) :
      Advanced code verbose n m (some .halted) m'
  | failed {indices : List Int} {m₁ m' : Machine} {fault : RunFault}
      (htrail : Trail code verbose m indices m₁) (hlength : indices.length < n)
      (hrunning : m₁.halted = false) (hstep : (step code verbose).run.run m₁ = (.error fault, m')) :
      Advanced code verbose n m (some (.failed fault)) m'
  | stopped {indices : List Int} {m' : Machine} (htrail : Trail code verbose m indices m')
      (hlength : indices.length = n) (hrunning : m'.halted = false) :
      Advanced code verbose n m none m'

theorem Advanced.cons {n : Nat} {m m₁ m' : Machine} {ending : Option Ending}
    (hstep : (step code verbose).run.run m = (.ok (), m₁))
    (h : Advanced code verbose n m₁ ending m') : Advanced code verbose (n + 1) m ending m' := by
  cases h with
  | halted htrail hlength hhalted =>
      exact .halted (.cons hstep htrail) (Nat.succ_le_succ hlength) hhalted
  | failed htrail hlength hrunning hfail =>
      exact .failed (.cons hstep htrail) (Nat.succ_lt_succ hlength) hrunning hfail
  | stopped htrail hlength hrunning =>
      exact .stopped (.cons hstep htrail) (congrArg Nat.succ hlength) hrunning

theorem advanced_advance (code : List Instruction) (verbose : Bool) (n : Nat) (m : Machine) :
    Advanced code verbose n m (advance code verbose n m).1 (advance code verbose n m).2 := by
  induction n generalizing m with
  | zero =>
      cases hhalted : m.halted with
      | true => simpa [advance, hhalted] using Advanced.halted (.nil m) (Nat.le_refl 0) hhalted
      | false => simpa [advance, hhalted] using Advanced.stopped (.nil m) rfl hhalted
  | succ n ih =>
      cases hhalted : m.halted with
      | true => simpa [advance, hhalted] using Advanced.halted (.nil m) (Nat.zero_le _) hhalted
      | false =>
          rcases hstep : (step code verbose).run.run m with ⟨fault | _, m₁⟩
          · simpa [advance, hhalted, hstep] using
              Advanced.failed (.nil m) (Nat.succ_pos n) hhalted hstep
          · simpa [advance, hhalted, hstep] using (ih m₁).cons hstep

/-- The ways in which a run ends. -/
inductive Ran (code : List Instruction) (verbose : Bool) (limit : Option Int) (m : Machine) :
    Ending → Machine → Prop
  | halted {indices : List Int} {m' : Machine} (htrail : Trail code verbose m indices m')
      (hlength : indices.length ≤ allowance code limit m) (hhalted : m'.halted = true) :
      Ran code verbose limit m .halted (m'.noted verbose m'.haltLine)
  | failed {indices : List Int} {m₁ m' : Machine} {fault : RunFault}
      (htrail : Trail code verbose m indices m₁)
      (hlength : indices.length < allowance code limit m) (hrunning : m₁.halted = false)
      (hstep : (step code verbose).run.run m₁ = (.error fault, m')) :
      Ran code verbose limit m (.failed fault) m'
  | stepLimit {most : Int} {indices : List Int} {m' : Machine} (hlimit : limit = some most)
      (htrail : Trail code verbose m indices m')
      (hlength : indices.length = (most - m.steps).toNat) (hrunning : m'.halted = false) :
      Ran code verbose limit m (.failed (.stepLimit most m'.ip)) m'
  | endless {indices : List Int} {m' : Machine} (hlimit : limit = none)
      (htrail : Trail code verbose m indices m')
      (hlength : indices.length = allowance code none m) (hrunning : m'.halted = false) :
      Ran code verbose limit m .endless m'

theorem ran_run (code : List Instruction) (verbose : Bool) (limit : Option Int) (m : Machine) :
    Ran code verbose limit m (run code verbose limit m).1 (run code verbose limit m).2 := by
  have hadvance := advanced_advance code verbose (allowance code limit m) m
  unfold run
  generalize advance code verbose (allowance code limit m) m = result at hadvance ⊢
  rcases result with ⟨ending, m'⟩
  dsimp only at hadvance
  cases hadvance with
  | halted htrail hlength hhalted => exact .halted htrail hlength hhalted
  | failed htrail hlength hrunning hstep => exact .failed htrail hlength hrunning hstep
  | stopped htrail hlength hrunning =>
      cases limit with
      | none => exact .endless rfl htrail hlength hrunning
      | some most => exact .stepLimit rfl htrail hlength hrunning

theorem ran_of_run {limit : Option Int} {m m' : Machine} {ending : Ending}
    (h : run code verbose limit m = (ending, m')) : Ran code verbose limit m ending m' := by
  simpa only [h] using ran_run code verbose limit m

end LetterMachine.Machine
