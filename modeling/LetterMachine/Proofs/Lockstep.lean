import LetterMachine.Proofs.Step

namespace LetterMachine

namespace Action

/-- The registers of an action. -/
def registers : Action → List Register
  | add d s | sub d s | mul d s | div d s | copy d s | swap d s | compare d s => [d, s]
  | load d _ | clear d | decrement d | increment d | power d _ | print d => [d]
  | jump _ | halt => []

variable {m a : Machine} {action : Action}

theorem mem_registers_of_result? {dest : Register} {value : Int}
    (h : action.result? m = some (dest, value)) : dest ∈ action.registers := by
  cases action with
  | div d s =>
      simp only [result?] at h
      split at h
      · cases h
      · cases h
        exact List.mem_cons_self
  | swap | compare | print | jump | halt => cases h
  | _ =>
      cases h
      exact List.mem_cons_self

theorem result?_congr (hread : ∀ r ∈ action.registers, a.read r = m.read r) :
    action.result? a = action.result? m := by
  cases action <;> simp only [registers, List.mem_cons, List.not_mem_nil, or_false, forall_eq,
    forall_eq_or_imp] at hread <;> simp only [result?, hread]

end Action

namespace Machine

/-- What a relation between machines has to survive if they use no registers but the named ones. The
flags say which of the machines keep a trace. -/
structure Lockstep (named : Register → Prop) (verbose verbose' : Bool)
    (R : Machine → Machine → Prop) : Prop where
  read : ∀ {m a : Machine}, R m a → ∀ r, named r → a.read r = m.read r
  ip : ∀ {m a : Machine}, R m a → a.ip = m.ip
  halted : ∀ {m a : Machine}, R m a → a.halted = m.halted
  write : ∀ {m a : Machine}, R m a → ∀ r, named r → ∀ value,
    R (m.write r value) (a.write r value)
  compared : ∀ {m a : Machine}, R m a → ∀ o,
    R { m with comparison := some o } { a with comparison := some o }
  said : ∀ {m a : Machine}, R m a → ∀ line, R (say line m) (say line a)
  noted : ∀ {m a : Machine}, R m a → ∀ line, R (m.noted verbose line) (a.noted verbose' line)
  stopped : ∀ {m a : Machine}, R m a → R { m with halted := true } { a with halted := true }
  moved : ∀ {m a : Machine}, R m a → ∀ next : Option Int,
    R { m with steps := m.steps + 1, ip := next.getD (m.ip + 1) }
      { a with steps := a.steps + 1, ip := next.getD (a.ip + 1) }

namespace Lockstep

variable {named : Register → Prop} {verbose verbose' : Bool} {R : Machine → Machine → Prop}
  {m m' a : Machine}

theorem performed (hR : Lockstep named verbose verbose' R) (h : R m a) {action : Action}
    (hnamed : ∀ r ∈ action.registers, named r) {result : Except FaultCause (Option Int)}
    (hperform : Performed m action result m') :
    ∃ a', Performed a action result a' ∧ R m' a' := by
  have hread : ∀ r ∈ action.registers, a.read r = m.read r := fun r hr =>
    hR.read h r (hnamed r hr)
  cases hperform with
  | negative hresult hvalue =>
      rw [← Action.result?_congr hread] at hresult
      exact ⟨a, .negative hresult hvalue, h⟩
  | overflow hresult hvalue =>
      rw [← Action.result?_congr hread] at hresult
      exact ⟨a, .overflow hresult hvalue, h⟩
  | @divisionByZero dest src hzero =>
      rw [← hread src (List.mem_cons_of_mem _ List.mem_cons_self)] at hzero
      exact ⟨a, .divisionByZero hzero, h⟩
  | @stored _ dest value hresult hlow hhigh =>
      have hdest : named dest := hnamed dest (Action.mem_registers_of_result? hresult)
      rw [← Action.result?_congr hread] at hresult
      exact ⟨_, .stored hresult hlow hhigh, hR.write h dest hdest value⟩
  | swap left right =>
      have hleft : left ∈ (Action.swap left right).registers := List.mem_cons_self
      have hright : right ∈ (Action.swap left right).registers :=
        List.mem_cons_of_mem _ List.mem_cons_self
      refine ⟨_, .swap left right, ?_⟩
      rw [hread left hleft, hread right hright]
      exact hR.write (hR.write h left (hnamed left hleft) _) right (hnamed right hright) _
  | compare left right =>
      refine ⟨_, .compare left right, ?_⟩
      rw [hread left List.mem_cons_self,
        hread right (List.mem_cons_of_mem _ List.mem_cons_self)]
      exact hR.said (hR.compared h _) _
  | print r =>
      refine ⟨_, .print r, ?_⟩
      rw [hread r List.mem_cons_self]
      exact hR.said h _
  | jump target => exact ⟨a, .jump target, h⟩
  | halt => exact ⟨_, .halt, hR.stopped h⟩

variable {code : List Instruction}

theorem stepped (hR : Lockstep named verbose verbose' R) (h : R m a)
    (hnamed : ∀ {i action}, fetch code m.ip = some i →
      Action.ofInstruction code.length i = .ok action → ∀ r ∈ action.registers, named r)
    {result : Except RunFault Unit} (hstepped : Stepped code verbose m result m') :
    ∃ a', Stepped code verbose' a result a' ∧ R m' a' := by
  have hip : a.ip = m.ip := hR.ip h
  have hhalted : a.halted = m.halted := hR.halted h
  have hready : ∀ {i action}, Ready code m i action → Ready code a i action := fun hready =>
    ⟨hhalted ▸ hready.running, hip ▸ hready.fetched, hready.checked, hready.showable⟩
  cases hstepped with
  | halted hstopped => exact ⟨a, .halted (hhalted ▸ hstopped), h⟩
  | ipOutside hrunning hfetch =>
      rw [← hip] at hfetch ⊢
      exact ⟨a, .ipOutside (hhalted ▸ hrunning) hfetch, h⟩
  | operand hrunning hfetch hcheck =>
      rw [← hip] at hfetch ⊢
      exact ⟨a, .operand (hhalted ▸ hrunning) hfetch hcheck, h⟩
  | unshowable hrunning hfetch hcheck hlong =>
      rw [← hip] at hfetch
      exact ⟨a, .unshowable (hhalted ▸ hrunning) hfetch hcheck hlong, h⟩
  | @failed i _ _ _ hrun hperform =>
      obtain ⟨a', hperform', ha'⟩ := hR.performed (hR.noted h (traceLine m.ip i))
        (hnamed hrun.fetched hrun.checked) hperform
      rw [← hip] at hperform' ⊢
      exact ⟨a', .failed (hready hrun) hperform', ha'⟩
  | @done i _ next _ hrun hperform =>
      obtain ⟨a', hperform', ha'⟩ := hR.performed (hR.noted h (traceLine m.ip i))
        (hnamed hrun.fetched hrun.checked) hperform
      rw [← hip] at hperform'
      exact ⟨_, .done (hready hrun) hperform', hR.moved ha' next⟩

theorem step (hR : Lockstep named verbose verbose' R) (h : R m a)
    (hnamed : ∀ {i action}, fetch code m.ip = some i →
      Action.ofInstruction code.length i = .ok action → ∀ r ∈ action.registers, named r)
    {result : Except RunFault Unit} (hstep : (step code verbose).run.run m = (result, m')) :
    ∃ a', (Machine.step code verbose').run.run a = (result, a') ∧ R m' a' := by
  obtain ⟨a', hstepped, ha'⟩ := hR.stepped h hnamed (stepped_of_run hstep)
  exact ⟨a', hstepped.run_eq, ha'⟩

end Lockstep

end Machine

end LetterMachine
