import LetterMachine.Proofs.Lockstep
import LetterMachine.Proofs.Trail

namespace LetterMachine.Machine

variable {code : List Instruction} {verbose : Bool} {m m' a : Machine}

/-- Two machines that go on in the same way. -/
structure Alike (m a : Machine) : Prop where
  registers : a.registers = m.registers
  ip : a.ip = m.ip
  halted : a.halted = m.halted

theorem Alike.read (h : Alike m a) (r : Register) : a.read r = m.read r :=
  congrArg (fun registers : Vector Int 26 => registers[r]) h.registers

theorem Alike.trans {b : Machine} (h : Alike m a) (h' : Alike a b) : Alike m b :=
  ⟨h'.registers.trans h.registers, h'.ip.trans h.ip, h'.halted.trans h.halted⟩

theorem Alike.noted (h : Alike m a) (verbose : Bool) (line : Text) :
    Alike (m.noted verbose line) (a.noted verbose line) where
  registers := by rw [noted_registers, noted_registers, h.registers]
  ip := by rw [noted_ip, noted_ip, h.ip]
  halted := by rw [noted_halted, noted_halted, h.halted]

theorem Alike.write (h : Alike m a) (r : Register) (value : Int) :
    Alike (m.write r value) (a.write r value) where
  registers := by rw [Machine.write, Machine.write, h.registers]
  ip := h.ip
  halted := h.halted

theorem alike_lockstep (verbose : Bool) : Lockstep (fun _ => True) verbose verbose Alike where
  read h r _ := h.read r
  ip h := h.ip
  halted h := h.halted
  write h r _ value := h.write r value
  compared h _ := ⟨h.registers, h.ip, h.halted⟩
  said h _ := ⟨h.registers, h.ip, h.halted⟩
  noted h line := h.noted verbose line
  stopped h := ⟨h.registers, h.ip, rfl⟩
  moved h next := ⟨h.registers, congrArg (fun ip => next.getD (ip + 1)) h.ip, h.halted⟩

theorem Alike.step (h : Alike m a) (hstep : (step code verbose).run.run m = (.ok (), m')) :
    ∃ a', (Machine.step code verbose).run.run a = (.ok (), a') ∧ Alike m' a' :=
  (alike_lockstep verbose).step h (fun _ _ _ _ => trivial) hstep

theorem Alike.trail {indices : List Int} (htrail : Trail code verbose m indices m')
    (h : Alike m a) : ∃ a', Trail code verbose a indices a' ∧ Alike m' a' := by
  induction htrail generalizing a with
  | nil m => exact ⟨a, .nil a, h⟩
  | cons hstep _ ih =>
      obtain ⟨a₁, hstep₁, h₁⟩ := h.step hstep
      obtain ⟨a', htrail', h'⟩ := ih h₁
      rw [← h.ip]
      exact ⟨a', .cons hstep₁ htrail', h'⟩

theorem Trail.split {front back : List Int} (htrail : Trail code verbose m (front ++ back) m') :
    ∃ m₁, Trail code verbose m front m₁ ∧ Trail code verbose m₁ back m' := by
  induction front generalizing m with
  | nil => exact ⟨m, .nil m, htrail⟩
  | cons index front ih =>
      cases htrail with
      | cons hstep hrest =>
          obtain ⟨m₁, hfront, hback⟩ := ih hrest
          exact ⟨m₁, .cons hstep hfront, hback⟩

theorem Trail.continues {indices longer : List Int} {m₂ : Machine}
    (htrail : Trail code verbose m indices m') (hlonger : Trail code verbose m longer m₂)
    (hlength : indices.length ≤ longer.length) :
    ∃ rest, longer = indices ++ rest ∧ Trail code verbose m' rest m₂ := by
  induction htrail generalizing longer with
  | nil m => exact ⟨longer, rfl, hlonger⟩
  | cons hstep _ ih =>
      cases hlonger with
      | nil => simp at hlength
      | cons hstep' hrest' =>
          rw [hstep] at hstep'
          cases hstep'
          obtain ⟨rest, rfl, hrest⟩ := ih hrest' (Nat.le_of_succ_le_succ hlength)
          exact ⟨rest, rfl, hrest⟩

end LetterMachine.Machine
