import LetterMachine.Machine.Action

namespace LetterMachine

theorem Register.ofInt?_eq_some_iff {n : Int} {r : Register} : ofInt? n = some r ↔ n = r.val := by
  unfold ofInt?
  split
  · simp only [Option.some.injEq, Fin.ext_iff]
    omega
  · have hlt := r.isLt
    simp only [reduceCtorEq, false_iff]
    omega

theorem Register.ofInt?_val (r : Register) : ofInt? r.val = some r := ofInt?_eq_some_iff.mpr rfl

theorem Register.ofInt?_eq_none_iff {n : Int} : ofInt? n = none ↔ n < 0 ∨ 25 < n := by
  unfold ofInt?
  split
  · simp only [reduceCtorEq, false_iff]
    omega
  · simp only [true_iff]
    omega

namespace Instruction

/-- The operands of the instruction that stand for registers name these two. -/
structure Names (i : Instruction) (d s : Register) : Prop where
  dest : i.opcode.operandKinds[0]? = some .register → i.dest = d.val
  src : i.opcode.operandKinds[1]? = some .register → i.src = s.val

/-- A jump leads to an instruction of a program of the given length. -/
def Reaches (i : Instruction) (length : Nat) : Prop :=
  i.opcode = .jmp → 0 ≤ i.dest ∧ i.dest < length

/-- The action of an instruction on the registers `d` and `s`. -/
def action (i : Instruction) (d s : Register) : Action :=
  match i.opcode with
  | .add => .add d s
  | .sub => .sub d s
  | .mul => .mul d s
  | .div => .div d s
  | .mov => .load d i.src
  | .movr => .copy d s
  | .swap => .swap d s
  | .clr => .clear d
  | .dec => .decrement d
  | .inc => .increment d
  | .cmp => .compare d s
  | .pow => .power d i.src
  | .print => .print d
  | .jmp => .jump i.dest
  | .halt => .halt

end Instruction

namespace Action

theorem register_eq_ok {operand : Int} {r : Register} (h : Register.ofInt? operand = some r) :
    register operand = .ok r := by rw [register, h]

theorem register_eq_error {operand : Int} (h : Register.ofInt? operand = none) :
    register operand = .error (.invalidRegister operand) := by rw [register, h]

/-- The ways in which the operands of an instruction are checked. -/
inductive Checked (length : Nat) (i : Instruction) : Except FaultCause Action → Prop
  | ok {d s : Register} (hnames : i.Names d s) (hreaches : i.Reaches length) :
      Checked length i (.ok (i.action d s))
  | dest (hkind : i.opcode.operandKinds[0]? = some .register)
      (hdest : Register.ofInt? i.dest = none) :
      Checked length i (.error (.invalidRegister i.dest))
  | src {d : Register} (hdest : Register.ofInt? i.dest = some d)
      (hkind : i.opcode.operandKinds[1]? = some .register)
      (hsrc : Register.ofInt? i.src = none) :
      Checked length i (.error (.invalidRegister i.src))
  | target (hop : i.opcode = .jmp) (htarget : ¬(0 ≤ i.dest ∧ i.dest < length)) :
      Checked length i (.error (.targetOutside i.dest))

variable {length : Nat} {i : Instruction}

theorem checked_register {f : Register → Action}
    (hkinds : i.opcode.operandKinds[0]? = some .register)
    (hkinds' : i.opcode.operandKinds[1]? ≠ some .register)
    (haction : ∀ d s, i.action d s = f d) :
    Checked length i (do return f (← register i.dest)) := by
  have hreaches : i.Reaches length := by
    intro hop
    rw [hop] at hkinds
    cases hkinds
  rcases hdest : Register.ofInt? i.dest with _ | d
  · rw [register_eq_error hdest]
    exact .dest hkinds hdest
  · rw [register_eq_ok hdest]
    change Checked length i (.ok (f d))
    rw [← haction d 0]
    refine .ok ⟨fun _ => Register.ofInt?_eq_some_iff.mp hdest, ?_⟩ hreaches
    intro h
    exact absurd h hkinds'

theorem checked_registers {f : Register → Register → Action}
    (hkinds : i.opcode.operandKinds = [.register, .register])
    (haction : ∀ d s, i.action d s = f d s) :
    Checked length i (do return f (← register i.dest) (← register i.src)) := by
  have hreaches : i.Reaches length := by
    intro hop
    rw [hop] at hkinds
    cases hkinds
  rcases hdest : Register.ofInt? i.dest with _ | d
  · rw [register_eq_error hdest]
    exact .dest (by rw [hkinds]; rfl) hdest
  · rw [register_eq_ok hdest]
    rcases hsrc : Register.ofInt? i.src with _ | s
    · rw [register_eq_error hsrc]
      exact .src hdest (by rw [hkinds]; rfl) hsrc
    · rw [register_eq_ok hsrc]
      change Checked length i (.ok (f d s))
      rw [← haction d s]
      exact .ok ⟨fun _ => Register.ofInt?_eq_some_iff.mp hdest,
        fun _ => Register.ofInt?_eq_some_iff.mp hsrc⟩ hreaches

theorem checked_jumpTo (hop : i.opcode = .jmp) : Checked length i (jumpTo length i.dest) := by
  unfold jumpTo
  split
  · rename_i htarget
    have haction : i.action 0 0 = .jump i.dest := by rw [Instruction.action, hop]
    rw [← haction]
    refine .ok ⟨?_, ?_⟩ fun _ => htarget
    · simp [hop, Opcode.operandKinds]
    · simp [hop, Opcode.operandKinds]
  · rename_i htarget
    exact .target hop htarget

theorem checked_ofInstruction (length : Nat) (i : Instruction) :
    Checked length i (ofInstruction length i) := by
  rcases i with ⟨op, dest, src⟩
  simp only [ofInstruction]
  cases op with
  | add | sub | mul | div | movr | swap | cmp => exact checked_registers rfl fun _ _ => rfl
  | mov | clr | dec | inc | pow | print => exact checked_register rfl nofun fun _ _ => rfl
  | jmp => exact checked_jumpTo rfl
  | halt => exact .ok (d := 0) (s := 0) ⟨nofun, nofun⟩ nofun

theorem checked_of_ofInstruction {result : Except FaultCause Action}
    (h : ofInstruction length i = result) : Checked length i result :=
  h ▸ checked_ofInstruction length i

theorem ofInstruction_of_names {d s : Register} (hnames : i.Names d s)
    (hreaches : i.Reaches length) : ofInstruction length i = .ok (i.action d s) := by
  have hregister : ∀ r : Register, register r.val = .ok r := fun r =>
    register_eq_ok (Register.ofInt?_val r)
  rcases i with ⟨op, dest, src⟩
  cases op with
  | add | sub | mul | div | movr | swap | cmp =>
      obtain rfl : dest = d.val := hnames.dest rfl
      obtain rfl : src = s.val := hnames.src rfl
      simp only [ofInstruction, hregister]
      rfl
  | mov | clr | dec | inc | pow | print =>
      obtain rfl : dest = d.val := hnames.dest rfl
      simp only [ofInstruction, hregister]
      rfl
  | jmp => exact if_pos (hreaches rfl)
  | halt => rfl

theorem ofInstruction_of_dest (hkind : i.opcode.operandKinds[0]? = some .register)
    (hdest : Register.ofInt? i.dest = none) :
    ofInstruction length i = .error (.invalidRegister i.dest) := by
  rcases i with ⟨op, dest, src⟩
  cases op with
  | jmp | halt => cases hkind
  | _ =>
      simp only [ofInstruction, register_eq_error hdest]
      rfl

theorem ofInstruction_of_src {d : Register} (hdest : Register.ofInt? i.dest = some d)
    (hkind : i.opcode.operandKinds[1]? = some .register)
    (hsrc : Register.ofInt? i.src = none) :
    ofInstruction length i = .error (.invalidRegister i.src) := by
  rcases i with ⟨op, dest, src⟩
  cases op with
  | add | sub | mul | div | movr | swap | cmp =>
      simp only [ofInstruction, register_eq_ok hdest, register_eq_error hsrc]
      rfl
  | _ => cases hkind

theorem Checked.ofInstruction_eq {result : Except FaultCause Action}
    (h : Checked length i result) : ofInstruction length i = result := by
  cases h with
  | ok hnames hreaches => exact ofInstruction_of_names hnames hreaches
  | dest hkind hdest => exact ofInstruction_of_dest hkind hdest
  | src hdest hkind hsrc => exact ofInstruction_of_src hdest hkind hsrc
  | target hop htarget =>
      rw [ofInstruction, hop]
      exact if_neg htarget

end Action

end LetterMachine
