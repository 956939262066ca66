import LetterMachine.Assembly
import LetterMachine.Proofs.Call
import LetterMachine.Proofs.Flow
import LetterMachine.Proofs.Lockstep

/-!
Registers that a program does not name. Writing to such a register goes along with every action,
step and call, so that its value neither matters nor changes.
-/

namespace LetterMachine

/-- The register is an operand of the instruction. Values and targets that are equal to its number
do not count, and neither do operands that the operation does not use. -/
def Instruction.Mentions (i : Instruction) (r : Register) : Prop :=
  (OperandKind.register, (r.val : Int)) ∈ i.opcode.operandKinds.zip i.operands

namespace Action

theorem mentions_of_mem_registers {i : Instruction} {d s r : Register} (hnames : i.Names d s)
    (hr : r ∈ (i.action d s).registers) : i.Mentions r := by
  rcases i with ⟨op, dest, src⟩
  cases op with
  | add | sub | mul | div | movr | swap | cmp =>
      obtain rfl : dest = d.val := hnames.dest rfl
      obtain rfl : src = s.val := hnames.src rfl
      rcases List.mem_cons.mp hr with rfl | hr
      · exact List.mem_cons_self
      · obtain rfl := List.mem_singleton.mp hr
        exact List.mem_cons_of_mem _ List.mem_cons_self
  | mov | clr | dec | inc | pow | print =>
      obtain rfl : dest = d.val := hnames.dest rfl
      obtain rfl := List.mem_singleton.mp hr
      exact List.mem_cons_self
  | jmp | halt => cases hr

theorem not_mem_registers {length : Nat} {i : Instruction} {a : Action} {r : Register}
    (h : ofInstruction length i = .ok a) (hr : ¬i.Mentions r) : r ∉ a.registers := by
  cases checked_of_ofInstruction h with
  | ok hnames _ => exact fun hmem => hr (mentions_of_mem_registers hnames hmem)

end Action

namespace Machine

variable {code : List Instruction} {verbose : Bool} {m m' : Machine} {r : Register}

theorem write_comm {s : Register} (hne : s ≠ r) (m : Machine) (v w : Int) :
    (m.write s v).write r w = (m.write r w).write s v := by
  unfold write
  congr 1
  exact Vector.set_comm v w fun heq => hne (Fin.ext heq)

theorem noted_write (m : Machine) (verbose : Bool) (line : Text) (value : Int) :
    (m.write r value).noted verbose line = (m.noted verbose line).write r value := by
  cases verbose <;> rfl

theorem write_lockstep (r : Register) (value : Int) (verbose : Bool) :
    Lockstep (· ≠ r) verbose verbose fun m a => a = m.write r value where
  read := by
    rintro m _ rfl s hs
    rw [read_write, if_neg (Ne.symm hs)]
  ip := by
    rintro m _ rfl
    rfl
  halted := by
    rintro m _ rfl
    rfl
  write := by
    rintro m _ rfl s hs v
    exact (write_comm hs m v value).symm
  compared := by
    rintro m _ rfl _
    rfl
  said := by
    rintro m _ rfl _
    rfl
  noted := by
    rintro m _ rfl line
    exact noted_write m verbose line value
  stopped := by
    rintro m _ rfl
    rfl
  moved := by
    rintro m _ rfl _
    rfl

/-- Two machines that differ in one register at most. -/
structure SameBut (r : Register) (m a : Machine) : Prop where
  registers : ∀ s, s ≠ r → a.read s = m.read s
  ip : a.ip = m.ip
  halted : a.halted = m.halted
  comparison : a.comparison = m.comparison
  output : a.output = m.output
  steps : a.steps = m.steps
  feed : a.feed = m.feed

theorem SameBut.refl (r : Register) (m : Machine) : SameBut r m m :=
  ⟨fun _ _ => rfl, rfl, rfl, rfl, rfl, rfl, rfl⟩

theorem sameBut_write (r : Register) (m : Machine) (value : Int) : SameBut r m (m.write r value) :=
  ⟨fun _ hs => by rw [read_write, if_neg (Ne.symm hs)], rfl, rfl, rfl, rfl, rfl, rfl⟩

theorem SameBut.eq_write {a : Machine} (h : SameBut r m a) : a = m.write r (a.read r) := by
  have hregisters : a.registers = (m.write r (a.read r)).registers := by
    apply Vector.ext
    intro n hn
    change a.read ⟨n, hn⟩ = (m.write r (a.read r)).read ⟨n, hn⟩
    rw [read_write]
    split
    · rename_i heq
      rw [heq]
    · rename_i hne
      exact h.registers _ (Ne.symm hne)
  rcases a with ⟨registers, ip, halted, comparison, output, steps, feed⟩
  obtain ⟨-, rfl, rfl, rfl, rfl, rfl, rfl⟩ := h
  rw [Machine.write, Machine.mk.injEq]
  exact ⟨hregisters, rfl, rfl, rfl, rfl, rfl, rfl⟩

section Unmentioned

variable (hr : ∀ i ∈ code, ¬i.Mentions r)

include hr

theorem step_write (verbose : Bool) (m : Machine) (value : Int) :
    (step code verbose).run.run (m.write r value) =
      (((step code verbose).run.run m).1, ((step code verbose).run.run m).2.write r value) := by
  have hnamed : ∀ {i action}, fetch code m.ip = some i →
      Action.ofInstruction code.length i = .ok action → ∀ s ∈ action.registers, s ≠ r := by
    rintro i action hfetch hchecked s hs rfl
    exact Action.not_mem_registers hchecked (hr i (mem_of_fetch hfetch)) hs
  rcases hstep : (step code verbose).run.run m with ⟨result, m'⟩
  obtain ⟨_, hstep', rfl⟩ := (write_lockstep r value verbose).step rfl hnamed hstep
  exact hstep'

theorem advance_write (verbose : Bool) (n : Nat) (m : Machine) (value : Int) :
    advance code verbose n (m.write r value) =
      ((advance code verbose n m).1, (advance code verbose n m).2.write r value) := by
  induction n generalizing m with
  | zero => rfl
  | succ n ih =>
      have hhalted : (m.write r value).halted = m.halted := rfl
      rw [advance, advance, step_write hr, hhalted]
      split
      · rfl
      · rcases (step code verbose).run.run m with ⟨fault | _, m₁⟩
        · rfl
        · exact ih m₁

theorem run_write (verbose : Bool) (limit : Option Int) (m : Machine) (value : Int) :
    run code verbose limit (m.write r value) =
      ((run code verbose limit m).1, (run code verbose limit m).2.write r value) := by
  have hallowance : allowance code limit (m.write r value) = allowance code limit m := rfl
  rw [run, run, advance_write hr, hallowance]
  rcases advance code verbose (allowance code limit m) m with ⟨_ | ending, m'⟩
  · cases limit <;> rfl
  · cases ending with
    | halted => cases verbose <;> rfl
    | failed fault => rfl
    | endless => rfl

theorem answer_write (verbose : Bool) (call : Call) (m : Machine) (value : Int) :
    answer code verbose call (m.write r value) =
      ((answer code verbose call m).1, (answer code verbose call m).2.write r value) := by
  cases call with
  | step =>
      rw [answer, answer, step_write hr]
      rcases (Machine.step code verbose).run.run m with ⟨_ | _, _⟩ <;> rfl
  | run limit => rw [answer_run, answer_run, run_write hr]

theorem calls_write (verbose : Bool) (calls : List Call) (m : Machine) (value : Int) :
    answers code verbose calls (m.write r value) = answers code verbose calls m ∧
      afterCalls code verbose calls (m.write r value) =
        (afterCalls code verbose calls m).write r value := by
  induction calls generalizing m with
  | nil => exact ⟨rfl, rfl⟩
  | cons call calls ih =>
      obtain ⟨hanswers, hafter⟩ := ih (answer code verbose call m).2
      rw [answers, answers, afterCalls_cons, afterCalls_cons, answer_write hr, hanswers, hafter]
      exact ⟨rfl, rfl⟩

theorem read_afterCalls (verbose : Bool) (calls : List Call) (m : Machine) :
    (afterCalls code verbose calls m).read r = m.read r := by
  have hafter := (calls_write hr verbose calls m (m.read r)).2
  rw [← (SameBut.refl r m).eq_write] at hafter
  rw [hafter, read_write, if_pos rfl]

end Unmentioned

/-- Machines that differ in a register that the program does not name give the same answers to all
calls, differ in that register only ever after, and keep its values. -/
theorem answers_of_sameBut (p : Program) (verbose : Bool) {r : Register}
    (hr : ∀ i ∈ p.instructions, ¬i.Mentions r) {m a : Machine} (h : SameBut r m a)
    (calls : List Call) :
    let m' := afterCalls p.instructions verbose calls m
    let a' := afterCalls p.instructions verbose calls a
    answers p.instructions verbose calls a = answers p.instructions verbose calls m ∧
      SameBut r m' a' ∧ m'.read r = m.read r ∧ a'.read r = a.read r := by
  intro m' a'
  obtain ⟨hanswers, hafter⟩ := calls_write hr verbose calls m (a.read r)
  rw [← h.eq_write] at hanswers hafter
  refine ⟨hanswers, ?_, read_afterCalls hr verbose calls m, read_afterCalls hr verbose calls a⟩
  have hsame := sameBut_write r m' (a.read r)
  rwa [← hafter] at hsame

theorem answers_of_sameBut_number :
    let source := "mov a 3\njmp 3\ndec b\ndec b\n.f\nprint d\n.end".toList
    let p : Program := ⟨[⟨.mov, 0, 3⟩, ⟨.jmp, 3, 0⟩, ⟨.dec, 1, 0⟩, ⟨.dec, 1, 0⟩, .halt],
      [⟨['f'], ".f".toList, 4, [⟨.print, 3, 0⟩]⟩]⟩
    let r : Register := 3
    let a : Machine := ({} : Machine).write r 7
    let calls : List Call := [.step, .run (some 2), .run none]
    let m' := afterCalls p.instructions true calls {}
    let a' := afterCalls p.instructions true calls a
    (assemble {} source).result = .ok p ∧ (∀ i ∈ p.instructions, ¬i.Mentions r) ∧
      SameBut r {} a ∧
      answers p.instructions true calls a = answers p.instructions true calls {} ∧
      SameBut r m' a' ∧ m'.read r = ({} : Machine).read r ∧ a'.read r = a.read r := by
  intro source p r a calls m' a'
  have hp : (assemble {} source).result = .ok p := by rfl
  have hr : ∀ i ∈ p.instructions, ¬i.Mentions r := by
    unfold Instruction.Mentions
    decide
  have ha : SameBut r {} a := sameBut_write r {} 7
  exact ⟨hp, hr, ha, answers_of_sameBut p true hr ha calls⟩

end Machine

end LetterMachine
