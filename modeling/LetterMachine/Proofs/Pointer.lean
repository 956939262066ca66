import LetterMachine.Proofs.Call
import LetterMachine.Proofs.Draft
import LetterMachine.Proofs.Failure
import LetterMachine.Proofs.Flow

namespace LetterMachine

theorem Action.bounds_of_jump {length : Nat} {i : Instruction} {a : Action}
    (h : ofInstruction length i = .ok a) (hop : i.opcode = .jmp) :
    0 ≤ i.dest ∧ i.dest < length := by
  cases checked_of_ofInstruction h with
  | ok _ hreaches => exact hreaches hop

theorem Instruction.Canonical.eq_halt {i : Instruction} (hi : i.Canonical)
    (hop : i.opcode = .halt) : i = .halt := by
  rcases i with ⟨op, dest, src⟩
  cases hop
  have hdest : dest = 0 := hi.dest_eq_zero (Nat.zero_lt_succ _)
  have hsrc : src = 0 := hi.src_eq_zero (Nat.zero_lt_succ _)
  rw [hdest, hsrc]
  rfl

namespace Machine

variable {code : List Instruction} {verbose : Bool} {m m' : Machine}

/-- A running machine stands at an instruction, and a halted one right behind an instruction that
halts. -/
structure Inside (code : List Instruction) (m : Machine) : Prop where
  running : m.halted = false → 0 ≤ m.ip ∧ m.ip < code.length
  halted : m.halted = true → ∃ i, fetch code (m.ip - 1) = some i ∧ i.opcode = .halt

theorem inside_new (hlast : code.getLast? = some .halt) : Inside code {} := by
  refine ⟨?_, nofun⟩
  intro _
  have hpos : 0 < code.length := by
    apply List.length_pos_iff.mpr
    rintro rfl
    cases hlast
  exact ⟨Int.le_refl 0, Int.ofNat_lt.mpr hpos⟩

theorem Inside.agrees (hm : Inside code m) (h : Agrees m m') : Inside code m' := by
  constructor
  · rw [h.halted, h.ip]
    exact hm.running
  · rw [h.halted, h.ip]
    exact hm.halted

theorem succ_lt_of_fetch (hlast : code.getLast? = some .halt) {index : Int} {i : Instruction}
    (hfetch : fetch code index = some i) (hop : i.opcode ≠ .halt) : index + 1 < code.length := by
  obtain ⟨hlow, hget⟩ := fetch_eq_some_iff.mp hfetch
  have hbounds := lt_of_fetch hfetch
  have hne : index.toNat ≠ code.length - 1 := by
    intro heq
    rw [List.getLast?_eq_getElem?, ← heq, hget] at hlast
    cases hlast
    exact hop rfl
  omega

theorem Ready.nextIndex_bounds (hlast : code.getLast? = some .halt) {i : Instruction} {a : Action}
    (hready : Ready code m i a) (hop : i.opcode ≠ .halt) :
    0 ≤ i.nextIndex m.ip ∧ i.nextIndex m.ip < code.length := by
  unfold Instruction.nextIndex
  split
  · rename_i hjmp
    exact Action.bounds_of_jump hready.checked hjmp
  · have hlow := (lt_of_fetch hready.fetched).1
    exact ⟨by omega, succ_lt_of_fetch hlast hready.fetched hop⟩

theorem Inside.stepped (hlast : code.getLast? = some .halt)
    (hstepped : Stepped code verbose m (.ok ()) m') : Inside code m' := by
  obtain ⟨i, hfetch, hhalted, hip⟩ := hstepped.flow
  constructor
  · intro hrunning
    have hop : i.opcode ≠ .halt := by
      rw [ne_eq, ← hhalted, hrunning]
      nofun
    cases hstepped with
    | done hready _ =>
        rw [hready.fetched] at hfetch
        cases hfetch
        rw [hip]
        exact hready.nextIndex_bounds hlast hop
  · intro h
    have hop := hhalted.mp h
    have hnext : i.nextIndex m.ip = m.ip + 1 := if_neg (by simp [hop])
    refine ⟨i, ?_, hop⟩
    rw [hip, hnext, Int.add_sub_cancel]
    exact hfetch

theorem kept_inside (hlast : code.getLast? = some .halt) (verbose : Bool) :
    Kept code verbose (Inside code) where
  step {m m' result} hm hstepped := by
    rcases result with fault | ⟨⟩
    · exact hm.agrees hstepped.agrees_of_error
    · exact .stepped hlast hstepped
  noted {m} line hm := hm.agrees (agrees_noted m verbose line)

theorem Inside.ne_ipOutside (hm : Inside code m) {fault : RunFault}
    (hstep : (step code verbose).run.run m = (.error fault, m')) (ip : Int) :
    fault ≠ .ipOutside ip := by
  rintro rfl
  cases stepped_of_run hstep with
  | ipOutside hrunning hfetch =>
      obtain ⟨hlow, hhigh⟩ := hm.running hrunning
      rw [fetch, if_pos hlow, List.getElem?_eq_none_iff] at hfetch
      omega

theorem Inside.answer_ne_ipOutside (hlast : code.getLast? = some .halt) (hm : Inside code m)
    (call : Call) (ip : Int) :
    (answer code verbose call m).1 ≠ some (.failed (.ipOutside ip)) := by
  cases call with
  | step =>
      rcases hstep : (step code verbose).run.run m with ⟨fault | _, m'⟩
      · have hne := hm.ne_ipOutside hstep ip
        simpa [answer, hstep] using hne
      · simp [answer, hstep]
  | run limit =>
      rw [answer_run]
      rcases hrun : run code verbose limit m with ⟨ending, m'⟩
      cases ran_of_run hrun with
      | failed htrail _ _ hstep =>
          have hm₁ := (kept_inside hlast verbose).trail htrail hm
          simpa using hm₁.ne_ipOutside hstep ip
      | halted | stepLimit | endless => nofun

/-- Whatever is asked of a machine on an assembled program, it stands at an instruction while it
runs and right behind an instruction that halts once it has halted, so that no call finds it outside
the program. -/
theorem ip_within_program {flags : AssemblyFlags} {source : Text} {p : Program}
    (h : (assemble flags source).result = .ok p) (verbose : Bool) (calls : List Call) :
    let m := afterCalls p.instructions verbose calls {}
    (m.halted = false → 0 ≤ m.ip ∧ m.ip < p.instructions.length) ∧
    (m.halted = true → fetch p.instructions (m.ip - 1) = some .halt ∧
      m.ip ≤ p.instructions.length) ∧
    ∀ call ip, (answer p.instructions verbose call m).1 ≠ some (.failed (.ipOutside ip)) := by
  intro m
  have hp := Program.wellFormed_of_assemble h
  have hm : Inside p.instructions m :=
    (kept_inside hp.getLast verbose).afterCalls calls (inside_new hp.getLast)
  refine ⟨hm.running, ?_, hm.answer_ne_ipOutside hp.getLast⟩
  intro hhalted
  obtain ⟨i, hfetch, hop⟩ := hm.halted hhalted
  have hi := (hp.canonical i (mem_of_fetch hfetch)).eq_halt hop
  rw [hi] at hfetch
  have hhigh := (lt_of_fetch hfetch).2
  exact ⟨hfetch, by omega⟩

theorem ip_within_program_jump :
    let source := "jmp 2\ndec a".toList
    let p : Program := ⟨[⟨.jmp, 2, 0⟩, ⟨.dec, 0, 0⟩, .halt], []⟩
    let jumped := afterCalls p.instructions true [.run (some 1)] {}
    let m := afterCalls p.instructions true [.run (some 1), .run none, .step] {}
    (assemble {} source).result = .ok p ∧
      (jumped.halted = false ∧ 0 ≤ jumped.ip ∧ jumped.ip < p.instructions.length) ∧
      (m.halted = true ∧ fetch p.instructions (m.ip - 1) = some .halt ∧
        m.ip ≤ p.instructions.length) ∧
      ∀ call ip, (answer p.instructions true call m).1 ≠ some (.failed (.ipOutside ip)) := by
  intro source p jumped m
  have hp : (assemble {} source).result = .ok p := by rfl
  have hrunning : jumped.halted = false := by rfl
  have hhalted : m.halted = true := by rfl
  have hinside := (ip_within_program hp true [.run (some 1)]).1 hrunning
  obtain ⟨-, hbehind, hcalls⟩ := ip_within_program hp true [.run (some 1), .run none, .step]
  exact ⟨hp, ⟨hrunning, hinside⟩, ⟨hhalted, hbehind hhalted⟩, hcalls⟩

end Machine

end LetterMachine
