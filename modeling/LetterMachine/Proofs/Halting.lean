import LetterMachine.Proofs.Draft
import LetterMachine.Proofs.Report

namespace LetterMachine.Machine

variable {code : List Instruction} {verbose : Bool} {m : Machine} {chain : List Int}

/-- The ways in which a run without a limit ends along a chain: it halts after all of it, or it
fails at one of its indices, after the indices before. -/
inductive EndsAlong (code : List Instruction) (verbose : Bool) (m : Machine) (chain : List Int) :
    Prop
  | halted {m' : Machine} (htrail : Trail code verbose m chain m') (hhalted : m'.halted = true)
      (hrun : run code verbose none m = (.halted, m'.noted verbose m'.haltLine)) :
      EndsAlong code verbose m chain
  | failed {front back : List Int} {index : Int} {m₁ m' : Machine} {fault : RunFault}
      {d : Diagnostic} (hchain : chain = front ++ index :: back)
      (htrail : Trail code verbose m front m₁) (hip : m₁.ip = index)
      (hrun : run code verbose none m = (.failed fault, m'))
      (hreport : fault.report = .diagnostic d) (hkind : d.kind.isExecution = true)
      (hplace : d.ip? = some index) : EndsAlong code verbose m chain

theorem length_lt_allowance (code : List Instruction) (m : Machine) :
    code.length < allowance code none m := by
  have hpos : 0 < Nat.pow valueCount 26 := Nat.pow_pos (by decide)
  have hle := Nat.le_mul_of_pos_right code.length hpos
  exact Nat.lt_succ_of_le hle

theorem HaltChain.endsAlong (hchain : HaltChain code m.ip chain) (hrunning : m.halted = false)
    (hm : InRange m) (hcode : ∀ i ∈ code, i.Canonical) : EndsAlong code verbose m chain := by
  rcases hrun : run code verbose none m with ⟨ending, m'⟩
  cases ran_of_run hrun with
  | halted htrail _ hhalted =>
      have hindices := htrail.haltChain hrunning hhalted
      rw [hindices.unique hchain] at htrail
      exact .halted htrail hhalted hrun
  | @failed indices m₁ _ fault htrail _ hrunning₁ hstep =>
      obtain ⟨rest, rfl, hahead⟩ := hchain.of_trail htrail hrunning₁
      obtain ⟨back, rfl⟩ := hahead.eq_cons
      obtain ⟨i, hfetch⟩ := hahead.fetched
      have hm₁ := (kept_inRange code verbose).trail htrail hm
      obtain ⟨cause, -, hreport⟩ := (stepped_of_run hstep).report hrunning₁ hm₁ hfetch
        (hcode i (mem_of_fetch hfetch))
      exact .failed rfl htrail rfl hrun hreport cause.isExecution_kind rfl
  | stepLimit hlimit _ _ _ => cases hlimit
  | endless _ htrail hlength hrunning' =>
      obtain ⟨rest, rfl, -⟩ := hchain.of_trail htrail hrunning'
      have hle := hchain.length_le
      have hlt := length_lt_allowance code m
      rw [List.length_append] at hle
      omega

theorem ne_halted_of_no_chain (hchain : ∀ chain, ¬HaltChain code m.ip chain)
    (hrunning : m.halted = false) (limit : Option Int) :
    (run code verbose limit m).1 ≠ .halted := by
  intro hending
  rcases hrun : run code verbose limit m with ⟨ending, m'⟩
  rw [hrun] at hending
  cases hending
  cases ran_of_run hrun with
  | halted htrail _ hhalted => exact hchain _ (htrail.haltChain hrunning hhalted)

theorem no_chain_of_trail {m' : Machine} {indices : List Int}
    (htrail : Trail code verbose m indices m') (hrunning : m'.halted = false)
    (hlength : code.length ≤ indices.length) (chain : List Int) :
    ¬HaltChain code m.ip chain := by
  intro hchain
  obtain ⟨rest, rfl, hahead⟩ := hchain.of_trail htrail hrunning
  obtain ⟨back, rfl⟩ := hahead.eq_cons
  have hle := hchain.length_le
  rw [List.length_append, List.length_cons] at hle
  omega

theorem no_chain_of_stepLimit {limit : Option Int} {most ip : Int} {m' : Machine}
    (hrun : run code verbose limit m = (.failed (.stepLimit most ip), m'))
    (hsteps : m.steps + code.length ≤ m'.steps) (chain : List Int) :
    ¬HaltChain code m.ip chain := by
  cases ran_of_run hrun with
  | failed _ _ _ hstep => cases stepped_of_run hstep
  | stepLimit _ htrail _ hrunning =>
      have hlength := htrail.steps_eq
      exact no_chain_of_trail htrail hrunning (by omega) chain

/-- Halting is decided by the code of an assembled program and the index of the next instruction.
Steps that halt the machine visit no index twice. If a chain of indices leads to an instruction
that halts, then a run without a limit ends along it. If none does, then no run halts, and this is
so after a run that has reached its limit with as many steps as there are instructions. -/
theorem halting_decided {flags : AssemblyFlags} {source : Text} {p : Program}
    (h : (assemble flags source).result = .ok p) (verbose : Bool) {m : Machine}
    (hrunning : m.halted = false) (hm : InRange m) :
    (∀ indices m', Trail p.instructions verbose m indices m' → m'.halted = true →
      indices.length ≤ p.instructions.length ∧ indices.Nodup) ∧
    (∀ chain, HaltChain p.instructions m.ip chain → EndsAlong p.instructions verbose m chain) ∧
    ((∀ chain, ¬HaltChain p.instructions m.ip chain) →
      ∀ limit, (run p.instructions verbose limit m).1 ≠ .halted) ∧
    ∀ limit most ip m', run p.instructions verbose limit m = (.failed (.stepLimit most ip), m') →
      m.steps + p.instructions.length ≤ m'.steps →
        (∀ chain, ¬HaltChain p.instructions m.ip chain) ∧
        ∀ indices m₁, Trail p.instructions verbose m indices m₁ → m₁.halted = false := by
  refine ⟨?_, ?_, ?_, ?_⟩
  · intro indices m' htrail hhalted
    have hchain := htrail.haltChain hrunning hhalted
    exact ⟨hchain.length_le, hchain.nodup⟩
  · intro chain hchain
    exact hchain.endsAlong hrunning hm (Program.wellFormed_of_assemble h).canonical
  · intro hchain limit
    exact ne_halted_of_no_chain hchain hrunning limit
  · intro limit most ip m' hrun hsteps
    have hchain := no_chain_of_stepLimit hrun hsteps
    refine ⟨hchain, ?_⟩
    intro indices m₁ htrail
    rw [← Bool.not_eq_true]
    intro hhalted
    exact hchain indices (htrail.haltChain hrunning hhalted)

theorem halting_decided_jump :
    let source := "jmp 2\nhalt\ndec a".toList
    let p : Program := ⟨[⟨.jmp, 2, 0⟩, .halt, ⟨.dec, 0, 0⟩, .halt], []⟩
    (assemble {} source).result = .ok p ∧ ({} : Machine).halted = false ∧ InRange {} ∧
      HaltChain p.instructions 0 [0, 2, 3] ∧ EndsAlong p.instructions true {} [0, 2, 3] := by
  intro source p
  have hp : (assemble {} source).result = .ok p := by rfl
  have hchain : HaltChain p.instructions 0 [0, 2, 3] := by
    refine .next (i := ⟨.jmp, 2, 0⟩) rfl nofun ?_
    refine .next (i := ⟨.dec, 0, 0⟩) rfl nofun ?_
    exact .halt rfl rfl
  exact ⟨hp, rfl, inRange_new, hchain, (halting_decided hp true rfl inRange_new).2.1 _ hchain⟩

end LetterMachine.Machine
