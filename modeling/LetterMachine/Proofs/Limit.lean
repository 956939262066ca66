import LetterMachine.Proofs.Agreement

/-!
Runs with a limit. Such a run makes the steps that are made one by one as long as the machine runs
and has made fewer steps than the limit. It can therefore be cut at any smaller limit and taken up
again.
-/

namespace LetterMachine.Machine

variable {code : List Instruction} {verbose : Bool} {m m₁ m' a : Machine} {most : Int}

/-- Steps that are made one by one until the machine has halted, the limit is reached or a step
fails: how many of them succeed, how they end, and the machine afterwards. -/
inductive StepsUpTo (code : List Instruction) (verbose : Bool) (most : Int) :
    Machine → Nat → Ending → Machine → Prop
  | halted {m : Machine} (hhalted : m.halted = true) : StepsUpTo code verbose most m 0 .halted m
  | limit {m : Machine} (hrunning : m.halted = false) (hsteps : most ≤ m.steps) :
      StepsUpTo code verbose most m 0 (.failed (.stepLimit most m.ip)) m
  | failed {m m' : Machine} {fault : RunFault} (hrunning : m.halted = false)
      (hsteps : m.steps < most) (hstep : (step code verbose).run.run m = (.error fault, m')) :
      StepsUpTo code verbose most m 0 (.failed fault) m'
  | next {m m₁ m' : Machine} {count : Nat} {ending : Ending} (hrunning : m.halted = false)
      (hsteps : m.steps < most) (hstep : (step code verbose).run.run m = (.ok (), m₁))
      (hrest : StepsUpTo code verbose most m₁ count ending m') :
      StepsUpTo code verbose most m (count + 1) ending m'

namespace StepsUpTo

variable {count count' : Nat} {ending ending' : Ending}

theorem unique (h : StepsUpTo code verbose most m count ending m')
    (h' : StepsUpTo code verbose most m count' ending' a) :
    count = count' ∧ ending = ending' ∧ m' = a := by
  induction h generalizing count' with
  | halted hhalted =>
      cases h' with
      | halted _ => exact ⟨rfl, rfl, rfl⟩
      | limit hrunning _ | failed hrunning _ _ | next hrunning _ _ _ => simp_all
  | limit hrunning hsteps =>
      cases h' with
      | halted hhalted => simp_all
      | limit _ _ => exact ⟨rfl, rfl, rfl⟩
      | failed _ hsteps' _ | next _ hsteps' _ _ => omega
  | failed hrunning hsteps hstep =>
      cases h' with
      | halted hhalted => simp_all
      | limit _ hsteps' => omega
      | failed _ _ hstep' =>
          rw [hstep] at hstep'
          cases hstep'
          exact ⟨rfl, rfl, rfl⟩
      | next _ _ hstep' _ =>
          rw [hstep] at hstep'
          cases hstep'
  | next hrunning hsteps hstep _ ih =>
      cases h' with
      | halted hhalted => simp_all
      | limit _ hsteps' => omega
      | failed _ _ hstep' =>
          rw [hstep] at hstep'
          cases hstep'
      | next _ _ hstep' hrest' =>
          rw [hstep] at hstep'
          cases hstep'
          obtain ⟨rfl, rfl, rfl⟩ := ih hrest'
          exact ⟨rfl, rfl, rfl⟩

theorem congr (h : StepsUpTo code verbose most m count ending m') (ha : Agrees m a)
    (verbose' : Bool) :
    ∃ a', StepsUpTo code verbose' most a count ending a' ∧ Agrees m' a' := by
  induction h generalizing a with
  | halted hhalted => exact ⟨a, .halted (ha.halted.trans hhalted), ha⟩
  | limit hrunning hsteps =>
      rw [← ha.ip]
      exact ⟨a, .limit (ha.halted.trans hrunning) (ha.steps ▸ hsteps), ha⟩
  | failed hrunning hsteps hstep =>
      obtain ⟨a', hstep', ha'⟩ := ha.step verbose' hstep
      exact ⟨a', .failed (ha.halted.trans hrunning) (ha.steps ▸ hsteps) hstep', ha'⟩
  | next hrunning hsteps hstep _ ih =>
      obtain ⟨a₁, hstep', ha₁⟩ := ha.step verbose' hstep
      obtain ⟨a', hrest', ha'⟩ := ih ha₁
      exact ⟨a', .next (ha.halted.trans hrunning) (ha.steps ▸ hsteps) hstep' hrest', ha'⟩

theorem resume {least : Int} (hle : least ≤ most)
    (h : StepsUpTo code verbose least m count ending m₁)
    (h' : StepsUpTo code verbose most m₁ count' ending' m') :
    ∃ m₂, StepsUpTo code verbose most m (count + count') ending' m₂ ∧ Agrees m₂ m' := by
  induction h with
  | halted _ | limit _ _ =>
      rw [Nat.zero_add]
      exact ⟨m', h', .refl m'⟩
  | @failed m m₁ fault hrunning hsteps hstep =>
      -- the failed step left the machine as it was, so that it is made again under the larger limit
      have hm₁ := (stepped_of_run hstep).agrees_of_error
      obtain ⟨m₂, hagain, hm₂⟩ := hm₁.step verbose hstep
      have hrunning₁ : m₁.halted = false := hm₁.halted.trans hrunning
      have hsteps₁ : m₁.steps < most := by
        rw [hm₁.steps]
        omega
      obtain ⟨rfl, rfl, rfl⟩ := h'.unique (.failed hrunning₁ hsteps₁ hagain)
      exact ⟨m₁, .failed hrunning (by omega) hstep, hm₂⟩
  | next hrunning hsteps hstep _ ih =>
      obtain ⟨m₂, hrest, hm₂⟩ := ih h'
      rw [Nat.add_right_comm]
      exact ⟨m₂, .next hrunning (by omega) hstep hrest, hm₂⟩

end StepsUpTo

theorem Trail.stepsUpTo {indices : List Int} {count : Nat} {ending : Ending}
    (htrail : Trail code verbose m indices m₁)
    (hlength : indices.length ≤ (most - m.steps).toNat)
    (h : StepsUpTo code verbose most m₁ count ending m') :
    StepsUpTo code verbose most m (indices.length + count) ending m' := by
  induction htrail with
  | nil m =>
      rw [List.length_nil, Nat.zero_add]
      exact h
  | cons hstep _ ih =>
      have hsteps := steps_of_step hstep
      rw [List.length_cons] at hlength
      rw [List.length_cons, Nat.add_right_comm]
      exact .next (running_of_step hstep) (by omega) hstep (ih (by omega) h)

theorem stepsUpTo_run (code : List Instruction) (verbose : Bool) (most : Int) (m : Machine) :
    ∃ count m', StepsUpTo code verbose most m count (run code verbose (some most) m).1 m' ∧
      Agrees m' (run code verbose (some most) m).2 ∧ count ≤ (most - m.steps).toNat := by
  rcases hrun : run code verbose (some most) m with ⟨ending, m'⟩
  cases ran_of_run hrun with
  | halted htrail hlength hhalted =>
      exact ⟨_, _, htrail.stepsUpTo hlength (.halted hhalted), agrees_noted _ verbose _, hlength⟩
  | @failed _ m₁ _ fault htrail hlength hrunning hstep =>
      have hsteps : m₁.steps < most := by
        have hlt : _ < (most - m.steps).toNat := hlength
        rw [htrail.steps_eq]
        omega
      have hle := Nat.le_of_lt hlength
      exact ⟨_, _, htrail.stepsUpTo hle (.failed hrunning hsteps hstep), .refl m', hle⟩
  | stepLimit hlimit htrail hlength hrunning =>
      cases hlimit
      have hsteps : most ≤ m'.steps := by
        rw [htrail.steps_eq]
        omega
      have hle := Nat.le_of_eq hlength
      exact ⟨_, _, htrail.stepsUpTo hle (.limit hrunning hsteps), .refl m', hle⟩
  | endless hlimit _ _ _ => cases hlimit

theorem run_of_stepsUpTo {count : Nat} {ending : Ending}
    (h : StepsUpTo code verbose most m count ending m') :
    (run code verbose (some most) m).1 = ending ∧
      Agrees m' (run code verbose (some most) m).2 := by
  obtain ⟨count', m₁, hrun, hm₁, -⟩ := stepsUpTo_run code verbose most m
  obtain ⟨-, rfl, rfl⟩ := h.unique hrun
  exact ⟨rfl, hm₁⟩

theorem run_resume {least : Int} (hle : least ≤ most) (m : Machine) :
    let stopped := (run code verbose (some least) m).2
    (run code verbose (some most) stopped).1 = (run code verbose (some most) m).1 ∧
      Agrees (run code verbose (some most) m).2 (run code verbose (some most) stopped).2 := by
  intro stopped
  obtain ⟨_, m₁, hfirst, hm₁, -⟩ := stepsUpTo_run code verbose least m
  obtain ⟨_, m₂, hsecond, hm₂, -⟩ := stepsUpTo_run code verbose most stopped
  obtain ⟨m₃, hsecond', hm₃⟩ := hsecond.congr hm₁.symm verbose
  obtain ⟨m₄, hwhole, hm₄⟩ := hfirst.resume hle hsecond'
  obtain ⟨hending, hagrees⟩ := run_of_stepsUpTo hwhole
  exact ⟨hending.symm, hagrees.symm.trans (hm₄.trans (hm₃.symm.trans hm₂))⟩

/-- A run with a limit makes the steps that are made one by one up to the limit, of which there are
no more than the limit leaves. A run with a smaller limit before it makes no difference. It halts if
the machine can do so with no more steps than the limit, and at once on a machine that has
halted. -/
theorem run_limited (code : List Instruction) (verbose : Bool) (m : Machine) :
    (∀ least most : Int, least ≤ most →
      let stopped := (run code verbose (some least) m).2
      (run code verbose (some most) stopped).1 = (run code verbose (some most) m).1 ∧
        Agrees (run code verbose (some most) m).2 (run code verbose (some most) stopped).2) ∧
    (∀ most : Int, ∃ count m',
      StepsUpTo code verbose most m count (run code verbose (some most) m).1 m' ∧
        Agrees m' (run code verbose (some most) m).2 ∧ count ≤ (most - m.steps).toNat) ∧
    (∀ (most : Int) indices m', Trail code verbose m indices m' → m'.halted = true →
      m'.steps ≤ most → (run code verbose (some most) m).1 = .halted) ∧
    (m.halted = true → ∀ most : Int, (run code verbose (some most) m).1 = .halted ∧
      Agrees m (run code verbose (some most) m).2) := by
  refine ⟨?_, ?_, ?_, ?_⟩
  · intro least most hle
    exact run_resume hle m
  · exact fun most => stepsUpTo_run code verbose most m
  · intro most indices m' htrail hhalted hsteps
    have hlength : indices.length ≤ (most - m.steps).toNat := by
      have hcount := htrail.steps_eq
      omega
    exact (run_of_stepsUpTo (htrail.stepsUpTo hlength (.halted hhalted))).1
  · intro hhalted most
    exact run_of_stepsUpTo (.halted hhalted)

theorem run_limited_at_halt :
    let code : List Instruction := [⟨.inc, 0, 0⟩, ⟨.print, 0, 0⟩, .halt]
    let stopped : Machine := (run code true (some 2) {}).2
    let whole : Machine := (run code true (some 3) {}).2
    run code true (some 2) {} = (.failed (.stepLimit 2 2), stopped) ∧
      run code true (some 3) {} = (.halted, whole) ∧
      (run code true (some 3) stopped).1 = .halted ∧
      Agrees whole (run code true (some 3) stopped).2 ∧
      (run code true (some 0) whole).1 = .halted ∧
      Agrees whole (run code true (some 0) whole).2 := by
  intro code stopped whole
  have hwhole : run code true (some 3) {} = (.halted, whole) := by
    refine Prod.ext ?_ rfl
    have htrail : Trail code true {} [0, 1, 2] _ := .cons rfl (.cons rfl (.cons rfl (.nil _)))
    exact (run_limited code true {}).2.2.1 3 [0, 1, 2] _ htrail rfl (by decide)
  obtain ⟨hending, hagrees⟩ := (run_limited code true {}).1 2 3 (by decide)
  have hhalted := (run_limited code true whole).2.2.2 rfl 0
  rw [hwhole] at hending
  exact ⟨rfl, hwhole, hending, hagrees, hhalted⟩

end LetterMachine.Machine
