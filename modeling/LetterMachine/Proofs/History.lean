import LetterMachine.Proofs.Call
import LetterMachine.Proofs.Semantics

namespace LetterMachine

/-- An instruction that was executed, with what the registers held before it. -/
structure Execution where
  instruction : Instruction
  held : Register → Int

namespace Execution

/-- The letter of the register that an operand names, and what the register held. -/
def operand? (e : Execution) (operand : Int) : Option (Char × Int) :=
  (Register.ofInt? operand).map fun r => (r.letter, e.held r)

/-- The verdict of a comparison. -/
def verdict? (e : Execution) : Option Ordering :=
  match e.instruction.opcode with
  | .cmp => do
    let (_, left) ← e.operand? e.instruction.dest
    let (_, right) ← e.operand? e.instruction.src
    return if left < right then .lt else if left = right then .eq else .gt
  | _ => none

/-- The line that a comparison puts out, or the one that shows a register. -/
def line? (e : Execution) : Option Text :=
  match e.instruction.opcode with
  | .cmp => do
    let (first, left) ← e.operand? e.instruction.dest
    let (second, right) ← e.operand? e.instruction.src
    let word := if left < right then "LESS" else if left = right then "EQUAL" else "GREATER"
    return "CMP ".toList ++ [first] ++ " ".toList ++ [second] ++ ": ".toList ++ word.toList
  | .print => do
    let (letter, value) ← e.operand? e.instruction.dest
    return [letter] ++ ": ".toList ++ Text.ofInt value
  | _ => none

variable {i : Instruction} {d s : Register} {held : Register → Int}

theorem verdict_compare (left right : Int) :
    Machine.verdict (compare left right) =
      (if left < right then "LESS" else if left = right then "EQUAL" else "GREATER").toList := by
  change Machine.verdict (compareOfLessAndEq left right) = _
  unfold compareOfLessAndEq
  split
  · rfl
  · split <;> rfl

theorem operand?_val (r : Register) :
    operand? ⟨i, held⟩ r.val = some (r.letter, held r) := by
  rw [operand?, Register.ofInt?_val, Option.map_some]

theorem verdict?_of_names (hnames : i.Names d s) :
    verdict? ⟨i, held⟩ = if i.opcode = .cmp then some (compare (held d) (held s)) else none := by
  rcases i with ⟨op, dest, src⟩
  cases op with
  | cmp =>
      obtain rfl : dest = d.val := hnames.dest rfl
      obtain rfl : src = s.val := hnames.src rfl
      simp only [verdict?, operand?_val]
      rfl
  | _ => rfl

theorem line?_of_names (hnames : i.Names d s) :
    (line? ⟨i, held⟩).toList = i.spoken held d s := by
  rcases i with ⟨op, dest, src⟩
  cases op with
  | cmp =>
      obtain rfl : dest = d.val := hnames.dest rfl
      obtain rfl : src = s.val := hnames.src rfl
      simp only [line?, operand?_val, Instruction.spoken, Machine.comparisonLine, verdict_compare]
      rfl
  | print =>
      obtain rfl : dest = d.val := hnames.dest rfl
      simp only [line?, operand?_val]
      rfl
  | _ => rfl

/-- Comparisons and instructions that print have a line, and comparisons have a verdict. -/
structure Heard (e : Execution) : Prop where
  line : e.line?.isSome ↔ e.instruction.opcode = .cmp ∨ e.instruction.opcode = .print
  verdict : e.verdict?.isSome ↔ e.instruction.opcode = .cmp

theorem heard_of_names (hnames : i.Names d s) (held : Register → Int) : Heard ⟨i, held⟩ where
  line := by
    rw [Option.isSome_iff_ne_none, ne_eq, ← Option.toList_eq_nil_iff, line?_of_names hnames]
    rcases i with ⟨op, dest, src⟩
    cases op <;> simp [Instruction.spoken]
  verdict := by
    rw [verdict?_of_names hnames]
    split
    · rename_i hop
      simp [hop]
    · rename_i hop
      simp [hop]

end Execution

namespace Machine

section History

variable (code : List Instruction) (verbose : Bool)

/-- The executions of the next steps, up to the first that fails and at most as many as given. -/
def executions : Nat → Machine → List Execution
  | 0, _ => []
  | n + 1, m =>
    match fetch code m.ip, (step code verbose).run.run m with
    | some i, (.ok _, m') => ⟨i, m.read⟩ :: executions n m'
    | _, _ => []

/-- The executions of a call. -/
def executionsOf : Call → Machine → List Execution
  | .step, m => executions code verbose 1 m
  | .run limit, m => executions code verbose (allowance code limit m) m

/-- The executions of a sequence of calls. -/
def history : List Call → Machine → List Execution
  | [], _ => []
  | call :: calls, m =>
    executionsOf code verbose call m ++ history calls (answer code verbose call m).2

end History

variable {code : List Instruction} {verbose : Bool} {m m' : Machine}

theorem executions_of_error {fault : RunFault}
    (hstep : (step code verbose).run.run m = (.error fault, m')) (n : Nat) :
    executions code verbose n m = [] := by
  cases n with
  | zero => rfl
  | succ n =>
      rw [executions, hstep]
      rcases fetch code m.ip with _ | i <;> rfl

theorem executions_of_ok {i : Instruction} (hfetch : fetch code m.ip = some i)
    (hstep : (step code verbose).run.run m = (.ok (), m')) (n : Nat) :
    executions code verbose (n + 1) m = ⟨i, m.read⟩ :: executions code verbose n m' := by
  rw [executions, hfetch, hstep]

/-- What executions do to the lines that a machine has put out, to the verdict of its last
comparison and to the number of its steps. -/
structure Recorded (past : List Execution) (m m' : Machine) : Prop where
  output : m'.output.toList = m.output.toList ++ past.filterMap Execution.line?
  emitted : m'.emitted = m.emitted ++ past.filterMap Execution.line?
  comparison : m'.comparison = (past.filterMap Execution.verdict?).getLast?.or m.comparison
  steps : m'.steps = m.steps + past.length
  heard : ∀ e ∈ past, e.Heard

theorem Recorded.trans {a : Machine} {past rest : List Execution} (h : Recorded past m a)
    (h' : Recorded rest a m') : Recorded (past ++ rest) m m' where
  output := by rw [h'.output, h.output, List.filterMap_append, List.append_assoc]
  emitted := by rw [h'.emitted, h.emitted, List.filterMap_append, List.append_assoc]
  comparison := by
    rw [h'.comparison, h.comparison, List.filterMap_append, List.getLast?_append, Option.or_assoc]
  steps := by rw [h'.steps, h.steps, List.length_append, Nat.add_assoc]
  heard e he := (List.mem_append.mp he).elim (h.heard e) (h'.heard e)

theorem Agrees.recorded (h : Agrees m m') : Recorded [] m m' where
  output := by rw [h.output]; exact (List.append_nil _).symm
  emitted := by rw [h.emitted]; exact (List.append_nil _).symm
  comparison := h.comparison
  steps := h.steps
  heard e he := nomatch he

theorem recorded_of_step (hstep : (step code verbose).run.run m = (.ok (), m')) :
    ∃ i, fetch code m.ip = some i ∧ Recorded [⟨i, m.read⟩] m m' := by
  obtain ⟨i, d, s, hfetch, hnames, h⟩ := (stepped_of_run hstep).executed
  have hlines : [(⟨i, m.read⟩ : Execution)].filterMap Execution.line? = i.spoken m.read d s := by
    rw [← Execution.line?_of_names hnames, List.filterMap_cons]
    cases Execution.line? ⟨i, m.read⟩ <;> rfl
  refine ⟨i, hfetch, ?_, ?_, ?_, h.steps, ?_⟩
  · rw [hlines, h.output]
  · rw [hlines, h.emitted]
  · rw [h.comparison, List.filterMap_cons, Execution.verdict?_of_names hnames]
    split <;> rfl
  · intro e he
    rw [List.mem_singleton.mp he]
    exact Execution.heard_of_names hnames m.read

theorem recorded_advance (code : List Instruction) (verbose : Bool) (n : Nat) (m : Machine) :
    Recorded (executions code verbose n m) m (advance code verbose n m).2 := by
  induction n generalizing m with
  | zero => exact (Agrees.refl m).recorded
  | succ n ih =>
      rcases hstep : (step code verbose).run.run m with ⟨fault | ⟨⟩, m₁⟩
      · rw [executions_of_error hstep, advance, hstep]
        split
        · exact (Agrees.refl m).recorded
        · exact (stepped_of_run hstep).agrees_of_error.recorded
      · obtain ⟨i, hfetch, hrecorded⟩ := recorded_of_step hstep
        rw [executions_of_ok hfetch hstep, advance, hstep, running_of_step hstep]
        exact hrecorded.trans (ih m₁)

theorem recorded_answer (code : List Instruction) (verbose : Bool) (call : Call) (m : Machine) :
    Recorded (executionsOf code verbose call m) m (answer code verbose call m).2 := by
  cases call with
  | step =>
      rw [answer_step, executionsOf]
      rcases hstep : (Machine.step code verbose).run.run m with ⟨fault | ⟨⟩, m'⟩
      · rw [executions_of_error hstep]
        exact (stepped_of_run hstep).agrees_of_error.recorded
      · obtain ⟨i, hfetch, hrecorded⟩ := recorded_of_step hstep
        rw [executions_of_ok hfetch hstep]
        exact hrecorded
  | run limit =>
      have hrun := (recorded_advance code verbose (allowance code limit m) m).trans
        (agrees_run code verbose limit m).recorded
      rwa [List.append_nil] at hrun

theorem recorded_afterCalls (code : List Instruction) (verbose : Bool) (calls : List Call)
    (m : Machine) :
    Recorded (history code verbose calls m) m (afterCalls code verbose calls m) := by
  induction calls generalizing m with
  | nil => exact (Agrees.refl m).recorded
  | cons call calls ih =>
      rw [history, afterCalls_cons]
      exact (recorded_answer code verbose call m).trans (ih _)

/-- What a machine has put out is what its history says: one line for each comparison and each
instruction that prints, and its verdict is that of the last comparison. -/
theorem output_eq_history (p : Program) (verbose : Bool) (calls : List Call) :
    let m := afterCalls p.instructions verbose calls {}
    let past := history p.instructions verbose calls {}
    m.output.toList = past.filterMap Execution.line? ∧
      m.emitted = past.filterMap Execution.line? ∧
      m.comparison = (past.filterMap Execution.verdict?).getLast? ∧
      m.steps = past.length ∧ ∀ e ∈ past, e.Heard := by
  intro m past
  have h : Recorded past {} m := recorded_afterCalls p.instructions verbose calls {}
  refine ⟨h.output, h.emitted, ?_, ?_, h.heard⟩
  · rw [h.comparison, Option.or_none]
  · rw [h.steps, Nat.zero_add]

theorem output_eq_history_failing :
    let p : Program :=
      ⟨[⟨.mov, 0, 3⟩, ⟨.cmp, 0, 1⟩, ⟨.print, 0, 0⟩, ⟨.dec, 1, 0⟩, .halt], []⟩
    let calls : List Call := [.run (some 2), .run none, .step]
    let m := afterCalls p.instructions true calls {}
    let past := history p.instructions true calls {}
    past.map Execution.instruction = [⟨.mov, 0, 3⟩, ⟨.cmp, 0, 1⟩, ⟨.print, 0, 0⟩] ∧
      m.output.toList = ["CMP a b: GREATER".toList, "a: 3".toList] ∧
      m.output.toList = past.filterMap Execution.line? ∧
      m.emitted = past.filterMap Execution.line? ∧
      m.comparison = (past.filterMap Execution.verdict?).getLast? ∧ m.steps = past.length ∧
      ∃ e ∈ past, e.instruction = ⟨.cmp, 0, 1⟩ ∧ e.Heard := by
  intro p calls m past
  have hpast : past.map Execution.instruction =
      [⟨.mov, 0, 3⟩, ⟨.cmp, 0, 1⟩, ⟨.print, 0, 0⟩] := by rfl
  obtain ⟨houtput, hemitted, hcomparison, hsteps, hheard⟩ := output_eq_history p true calls
  have hmem : (⟨.cmp, 0, 1⟩ : Instruction) ∈ past.map Execution.instruction := by
    rw [hpast]
    exact List.mem_cons_of_mem _ List.mem_cons_self
  obtain ⟨e, he, hinstruction⟩ := List.mem_map.mp hmem
  exact ⟨hpast, by rfl, houtput, hemitted, hcomparison, hsteps, e, he, hinstruction, hheard e he⟩

end Machine

end LetterMachine
