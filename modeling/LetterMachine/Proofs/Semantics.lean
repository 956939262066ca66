import LetterMachine.Proofs.Agreement
import LetterMachine.Proofs.Flow
import Mathlib.Algebra.Group.Int.Defs

namespace LetterMachine

namespace Instruction

/-- The number that an instruction puts into its first register, by the contents of its first and
its second register. -/
def result? (i : Instruction) (left right : Int) : Option Int :=
  match i.opcode with
  | .add => some (left + right)
  | .sub => some (left - right)
  | .mul => some (left * right)
  | .div => some (left.fdiv right)
  | .mov => some i.src
  | .movr => some right
  | .clr => some 0
  | .dec => some (left - 1)
  | .inc => some (left + 1)
  | .pow => some (left ^ i.src.toNat)
  | .swap | .cmp | .print | .jmp | .halt => none

/-- What the register `r` holds after an instruction on the registers `d` and `s`. -/
def after (i : Instruction) (held : Register → Int) (d s r : Register) : Int :=
  if i.opcode = .swap then held (if r = d then s else if r = s then d else r)
  else if r = d then (i.result? (held d) (held s)).getD (held d)
  else held r

/-- The lines that an instruction on the registers `d` and `s` puts out. -/
def spoken (i : Instruction) (held : Register → Int) (d s : Register) : List Text :=
  match i.opcode with
  | .cmp => [Machine.comparisonLine d s (compare (held d) (held s))]
  | .print => [Machine.registerLine d (held d)]
  | _ => []

end Instruction

namespace Machine

variable {code : List Instruction} {verbose : Bool} {m m' : Machine} {i : Instruction}
  {d s : Register}

theorem result?_action_eq_some_iff {dest : Register} {value : Int} :
    (i.action d s).result? m = some (dest, value) ↔
      dest = d ∧ i.result? (m.read d) (m.read s) = some value ∧
        (i.opcode = .div → m.read s ≠ 0) := by
  rcases i with ⟨op, first, second⟩
  cases op with
  | div =>
      by_cases hzero : m.read s = 0 <;>
        simp [Instruction.action, Instruction.result?, Action.result?, hzero, eq_comm]
  | pow =>
      have hpower : power (m.read d) second.toNat = m.read d ^ second.toNat := power_eq _ _
      simp [Instruction.action, Instruction.result?, Action.result?, hpower, eq_comm]
  | _ => simp [Instruction.action, Instruction.result?, Action.result?, eq_comm]

/-- What an instruction on the registers `d` and `s` does to the registers, to the verdict of the
last comparison and to what is put out. -/
structure Affected (i : Instruction) (d s : Register) (m m' : Machine) : Prop where
  registers : ∀ r, m'.read r = i.after m.read d s r
  comparison : m'.comparison =
    if i.opcode = .cmp then some (compare (m.read d) (m.read s)) else m.comparison
  output : m'.output.toList = m.output.toList ++ i.spoken m.read d s
  emitted : m'.emitted = m.emitted ++ i.spoken m.read d s

/-- What a step that executes an instruction on the registers `d` and `s` does. -/
structure Executed (i : Instruction) (d s : Register) (m m' : Machine) : Prop
    extends Affected i d s m m' where
  halted : m'.halted = true ↔ i.opcode = .halt
  steps : m'.steps = m.steps + 1
  ip : m'.ip = i.nextIndex m.ip

theorem affected_write {value : Int} (h : i.result? (m.read d) (m.read s) = some value) :
    Affected i d s m (m.write d value) := by
  have hwrite : ∀ r, (m.write d value).read r = if r = d then value else m.read r := by
    intro r
    rw [read_write]
    exact if_congr eq_comm rfl rfl
  rcases i with ⟨op, dest, src⟩
  cases op with
  | swap | cmp | print | jmp | halt => cases h
  | _ =>
      cases h
      exact ⟨hwrite, rfl, (List.append_nil _).symm, (List.append_nil _).symm⟩

theorem affected_swap (hop : i.opcode = .swap) (d s : Register) (m : Machine) :
    Affected i d s m ((m.write d (m.read s)).write s (m.read d)) := by
  have hspoken : i.spoken m.read d s = [] := by rw [Instruction.spoken, hop]
  refine ⟨?_, ?_, ?_, ?_⟩
  · intro r
    rw [Instruction.after, if_pos hop, read_write, read_write]
    by_cases hd : r = d
    · subst hd
      by_cases hs : s = r <;> simp [hs]
    · by_cases hs : r = s
      · subst hs
        simp [hd]
      · simp [hd, hs, Ne.symm hd, Ne.symm hs]
  · rw [hop]
    rfl
  · rw [hspoken, List.append_nil]
    rfl
  · rw [hspoken, List.append_nil]
    rfl

theorem Performed.affected {next : Option Int} (h : Performed m (i.action d s) (.ok next) m') :
    Affected i d s m m' := by
  generalize haction : i.action d s = a at h
  have hopcode := Action.opcode_action i d s
  rw [haction] at hopcode
  cases h with
  | stored hresult _ _ =>
      subst haction
      obtain ⟨rfl, hvalue, -⟩ := result?_action_eq_some_iff.mp hresult
      exact affected_write hvalue
  | swap left right =>
      have hop : i.opcode = .swap := hopcode.symm
      obtain ⟨rfl, rfl⟩ : d = left ∧ s = right := by simpa [Instruction.action, hop] using haction
      exact affected_swap hop d s m
  | compare left right =>
      have hop : i.opcode = .cmp := hopcode.symm
      obtain ⟨rfl, rfl⟩ : d = left ∧ s = right := by simpa [Instruction.action, hop] using haction
      refine ⟨?_, ?_, ?_, ?_⟩
      · simp [Instruction.after, Instruction.result?, hop, say, read]
      · simp [hop, say]
      · simp [Instruction.spoken, hop, say]
      · rw [emitted_say, Instruction.spoken, hop]
        rfl
  | print r =>
      have hop : i.opcode = .print := hopcode.symm
      obtain rfl : d = r := by simpa [Instruction.action, hop] using haction
      refine ⟨?_, ?_, ?_, ?_⟩
      · simp [Instruction.after, Instruction.result?, hop, say, read]
      · simp [hop, say]
      · simp [Instruction.spoken, hop, say]
      · rw [emitted_say, Instruction.spoken, hop]
  | jump target =>
      have hop : i.opcode = .jmp := hopcode.symm
      refine ⟨?_, ?_, ?_, ?_⟩
      · simp [Instruction.after, Instruction.result?, hop]
      · simp [hop]
      · simp [Instruction.spoken, hop]
      · simp [Instruction.spoken, hop]
  | halt =>
      have hop : i.opcode = .halt := hopcode.symm
      refine ⟨?_, ?_, ?_, ?_⟩
      · simp [Instruction.after, Instruction.result?, hop, read]
      · simp [hop]
      · simp [Instruction.spoken, hop]
      · simp [Instruction.spoken, hop, emitted]

theorem Affected.of_noted {line : Text} (h : Affected i d s (m.noted verbose line) m') :
    Affected i d s m m' := by
  have hread : (m.noted verbose line).read = m.read := funext (noted_read verbose line m)
  obtain ⟨hregisters, hcomparison, houtput, hemitted⟩ := h
  rw [hread] at hregisters hcomparison houtput hemitted
  refine ⟨hregisters, ?_, ?_, ?_⟩
  · simpa using hcomparison
  · simpa using houtput
  · simpa using hemitted

theorem Stepped.executed (h : Stepped code verbose m (.ok ()) m') :
    ∃ i d s, fetch code m.ip = some i ∧ i.Names d s ∧ Executed i d s m m' := by
  obtain ⟨j, hfetch, hhalted, hip⟩ := h.flow
  cases h with
  | @done _ a next m₁ hready hperform =>
      cases hfetch.symm.trans hready.fetched
      cases Action.checked_of_ofInstruction hready.checked with
      | @ok d s hnames _ =>
          have haffected := hperform.affected.of_noted
          have hsteps : m₁.steps = m.steps := hperform.steps_eq.trans (noted_steps _ _ m)
          refine ⟨j, d, s, hfetch, hnames, ?_, hhalted, congrArg Nat.succ hsteps, hip⟩
          exact ⟨haffected.registers, haffected.comparison, haffected.output, haffected.emitted⟩

end Machine

end LetterMachine
