import LetterMachine.Proofs.Checked
import LetterMachine.Proofs.Trail
import Mathlib.Data.List.Nodup
import Mathlib.Data.List.Perm.Subperm

/-!
The flow of control. Where a machine goes on depends on the instruction alone, so that the indices
up to a halting instruction can be read off the code.
-/

namespace LetterMachine

/-- The index that follows an instruction at the given index. -/
def Instruction.nextIndex (i : Instruction) (index : Int) : Int :=
  if i.opcode = .jmp then i.dest else index + 1

namespace Action

/-- The operation of an action. -/
def opcode : Action → Opcode
  | add .. => .add
  | sub .. => .sub
  | mul .. => .mul
  | div .. => .div
  | load .. => .mov
  | copy .. => .movr
  | swap .. => .swap
  | clear .. => .clr
  | decrement .. => .dec
  | increment .. => .inc
  | compare .. => .cmp
  | power .. => .pow
  | print .. => .print
  | jump .. => .jmp
  | halt => .halt

variable {length : Nat} {i : Instruction} {a : Action}

theorem opcode_action (i : Instruction) (d s : Register) : (i.action d s).opcode = i.opcode := by
  rcases i with ⟨op, dest, src⟩
  cases op <;> rfl

theorem opcode_of_ofInstruction (h : ofInstruction length i = .ok a) : a.opcode = i.opcode := by
  cases checked_of_ofInstruction h with
  | @ok d s _ _ => exact opcode_action i d s

theorem eq_jump (h : ofInstruction length i = .ok a) (hop : i.opcode = .jmp) :
    a = .jump i.dest := by
  cases checked_of_ofInstruction h with
  | ok _ _ => rw [Instruction.action, hop]

theorem eq_halt_iff : a = .halt ↔ a.opcode = .halt := by
  constructor
  · intro h
    rw [h]
    rfl
  · intro h
    cases a with
    | halt => rfl
    | _ => cases h

end Action

namespace Machine

variable {code : List Instruction} {verbose : Bool}

theorem Performed.halted_iff {m m' : Machine} {a : Action} {next : Option Int}
    (h : Performed m a (.ok next) m') (hm : m.halted = false) : m'.halted = true ↔ a = .halt := by
  cases h with
  | stored hresult _ _ =>
      have hne : a ≠ .halt := by
        rintro rfl
        cases hresult
      simpa [write, hm] using hne
  | swap left right => simp [write, hm]
  | compare left right => simp [say, hm]
  | print r => simp [say, hm]
  | jump target => simp [hm]
  | halt => simp

theorem Performed.next_eq {m m' : Machine} {a : Action} {next : Option Int}
    (h : Performed m a (.ok next) m') (hop : a.opcode ≠ .jmp) : next = none := by
  cases h with
  | jump target => exact absurd rfl hop
  | _ => rfl

theorem Performed.next_eq_of_jump {m m' : Machine} {target : Int} {next : Option Int}
    (h : Performed m (.jump target) (.ok next) m') : next = some target := by
  cases h with
  | stored hresult _ _ => cases hresult
  | jump target => rfl

theorem Stepped.flow {m m' : Machine} (h : Stepped code verbose m (.ok ()) m') :
    ∃ i, fetch code m.ip = some i ∧ (m'.halted = true ↔ i.opcode = .halt) ∧
      m'.ip = i.nextIndex m.ip := by
  cases h with
  | @done i a next m₁ hready hperform =>
      have hopcode := Action.opcode_of_ofInstruction hready.checked
      have hrunning : (m.noted verbose (traceLine m.ip i)).halted = false := by
        rw [noted_halted, hready.running]
      refine ⟨i, hready.fetched, ?_, ?_⟩
      · rw [← hopcode, ← Action.eq_halt_iff]
        exact hperform.halted_iff hrunning
      · change next.getD (m₁.ip + 1) = _
        rw [hperform.ip_eq, noted_ip, Instruction.nextIndex]
        split
        · rename_i hjmp
          rw [Action.eq_jump hready.checked hjmp] at hperform
          rw [hperform.next_eq_of_jump, Option.getD_some]
        · rename_i hjmp
          rw [hperform.next_eq (by rwa [hopcode]), Option.getD_none]

theorem flow_of_step {m m' : Machine} (hstep : (step code verbose).run.run m = (.ok (), m')) :
    ∃ i, fetch code m.ip = some i ∧ (m'.halted = true ↔ i.opcode = .halt) ∧
      m'.ip = i.nextIndex m.ip := (stepped_of_run hstep).flow

theorem fetch_eq_some_iff {index : Int} {i : Instruction} :
    fetch code index = some i ↔ 0 ≤ index ∧ code[index.toNat]? = some i := by
  unfold fetch
  split
  · rename_i h
    simp [h]
  · rename_i h
    simp [h]

theorem lt_of_fetch {index : Int} {i : Instruction} (h : fetch code index = some i) :
    0 ≤ index ∧ index < code.length := by
  obtain ⟨hlow, hget⟩ := fetch_eq_some_iff.mp h
  obtain ⟨hhigh, -⟩ := List.getElem?_eq_some_iff.mp hget
  omega

theorem mem_of_fetch {index : Int} {i : Instruction} (h : fetch code index = some i) : i ∈ code :=
  List.mem_of_getElem? (fetch_eq_some_iff.mp h).2

/-- The indices from one index on, each following the one before, up to an instruction that
halts. -/
inductive HaltChain (code : List Instruction) : Int → List Int → Prop
  | halt {index : Int} {i : Instruction} (hfetch : fetch code index = some i)
      (hop : i.opcode = .halt) : HaltChain code index [index]
  | next {index : Int} {i : Instruction} {rest : List Int} (hfetch : fetch code index = some i)
      (hop : i.opcode ≠ .halt) (hrest : HaltChain code (i.nextIndex index) rest) :
      HaltChain code index (index :: rest)

namespace HaltChain

variable {index : Int} {chain : List Int}

theorem unique {chain' : List Int} (h : HaltChain code index chain)
    (h' : HaltChain code index chain') : chain = chain' := by
  induction h generalizing chain' with
  | halt hfetch hop =>
      cases h' with
      | halt _ _ => rfl
      | next hfetch' hop' _ =>
          rw [hfetch] at hfetch'
          cases hfetch'
          exact absurd hop hop'
  | next hfetch hop _ ih =>
      cases h' with
      | halt hfetch' hop' =>
          rw [hfetch] at hfetch'
          cases hfetch'
          exact absurd hop' hop
      | next hfetch' _ hrest' =>
          rw [hfetch] at hfetch'
          cases hfetch'
          rw [ih hrest']

theorem eq_cons (h : HaltChain code index chain) : ∃ rest, chain = index :: rest := by
  cases h with
  | halt _ _ => exact ⟨[], rfl⟩
  | next _ _ _ => exact ⟨_, rfl⟩

theorem fetched (h : HaltChain code index chain) : ∃ i, fetch code index = some i := by
  cases h with
  | halt hfetch _ => exact ⟨_, hfetch⟩
  | next hfetch _ _ => exact ⟨_, hfetch⟩

theorem of_mem (h : HaltChain code index chain) {j : Int} (hj : j ∈ chain) :
    ∃ front back, chain = front ++ back ∧ HaltChain code j back := by
  induction h with
  | halt hfetch hop =>
      rw [List.mem_singleton.mp hj]
      exact ⟨[], _, rfl, .halt hfetch hop⟩
  | @next index i rest hfetch hop hrest ih =>
      rcases List.mem_cons.mp hj with rfl | hj
      · exact ⟨[], _, rfl, .next hfetch hop hrest⟩
      · obtain ⟨front, back, rfl, hback⟩ := ih hj
        exact ⟨index :: front, back, rfl, hback⟩

theorem nodup (h : HaltChain code index chain) : chain.Nodup := by
  induction h with
  | halt hfetch hop => exact List.nodup_singleton _
  | @next index i rest hfetch hop hrest ih =>
      apply List.nodup_cons.mpr
      refine ⟨?_, ih⟩
      intro hmem
      obtain ⟨front, back, rfl, hback⟩ := hrest.of_mem hmem
      have hchain := hback.unique (.next hfetch hop hrest)
      have hlength := congrArg List.length hchain
      simp only [List.length_cons, List.length_append] at hlength
      omega

theorem lt_of_mem (h : HaltChain code index chain) {j : Int} (hj : j ∈ chain) :
    0 ≤ j ∧ j < code.length := by
  obtain ⟨_, _, -, hback⟩ := h.of_mem hj
  obtain ⟨i, hfetch⟩ := hback.fetched
  exact lt_of_fetch hfetch

theorem length_le (h : HaltChain code index chain) : chain.length ≤ code.length := by
  have hnodup : (chain.map Int.toNat).Nodup := by
    apply List.Nodup.map_on _ h.nodup
    intro j hj k hk heq
    have hlow := (h.lt_of_mem hj).1
    have hlow' := (h.lt_of_mem hk).1
    omega
  have hsubset : chain.map Int.toNat ⊆ List.range code.length := by
    intro n hn
    obtain ⟨j, hj, rfl⟩ := List.mem_map.mp hn
    have hbounds := h.lt_of_mem hj
    rw [List.mem_range]
    omega
  have hle := (hnodup.subperm hsubset).length_le
  rwa [List.length_map, List.length_range] at hle

theorem of_trail {m m' : Machine} {indices : List Int} (h : HaltChain code m.ip chain)
    (htrail : Trail code verbose m indices m') (hrunning : m'.halted = false) :
    ∃ rest, chain = indices ++ rest ∧ HaltChain code m'.ip rest := by
  induction htrail generalizing chain with
  | nil m => exact ⟨chain, rfl, h⟩
  | @cons m m₁ m' indices hstep hrest ih =>
      obtain ⟨i, hfetch, hhalted, hip⟩ := flow_of_step hstep
      have hop : i.opcode ≠ .halt := by
        intro hop
        obtain ⟨-, rfl⟩ := hrest.eq_nil_of_halted (hhalted.mpr hop)
        rw [hhalted.mpr hop] at hrunning
        cases hrunning
      cases h with
      | halt hfetch' hop' =>
          rw [hfetch] at hfetch'
          cases hfetch'
          exact absurd hop' hop
      | next hfetch' _ hchain =>
          rw [hfetch] at hfetch'
          cases hfetch'
          rw [← hip] at hchain
          obtain ⟨rest, rfl, hahead⟩ := ih hchain hrunning
          exact ⟨rest, rfl, hahead⟩

end HaltChain

/-- Successful steps that halt the machine have gone along a chain. -/
theorem Trail.haltChain {m m' : Machine} {indices : List Int}
    (htrail : Trail code verbose m indices m') (hrunning : m.halted = false)
    (hhalted : m'.halted = true) : HaltChain code m.ip indices := by
  induction htrail with
  | nil m =>
      rw [hrunning] at hhalted
      cases hhalted
  | @cons m m₁ m' indices hstep hrest ih =>
      obtain ⟨i, hfetch, hiff, hip⟩ := flow_of_step hstep
      by_cases hop : i.opcode = .halt
      · obtain ⟨rfl, -⟩ := hrest.eq_nil_of_halted (hiff.mpr hop)
        exact .halt hfetch hop
      · have hrunning₁ : m₁.halted = false := by
          rw [← Bool.not_eq_true, hiff]
          exact hop
        have hchain := ih hrunning₁ hhalted
        rw [hip] at hchain
        exact .next hfetch hop hchain

end Machine

end LetterMachine
