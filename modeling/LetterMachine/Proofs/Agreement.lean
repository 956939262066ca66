import LetterMachine.Proofs.Alike
import LetterMachine.Proofs.Failure

namespace LetterMachine.Machine

variable {code : List Instruction} {verbose : Bool} {m m' a : Machine}

theorem Agrees.alike (h : Agrees m a) : Alike m a := ⟨h.registers, h.ip, h.halted⟩

theorem Agrees.noted (h : Agrees m a) (verbose verbose' : Bool) (line : Text) :
    Agrees (m.noted verbose line) (a.noted verbose' line) :=
  (agrees_noted m verbose line).symm.trans (h.trans (agrees_noted a verbose' line))

theorem Agrees.write (h : Agrees m a) (r : Register) (value : Int) :
    Agrees (m.write r value) (a.write r value) :=
  ⟨(h.alike.write r value).registers, h.ip, h.halted, h.comparison, h.output, h.emitted, h.steps⟩

@[simp]
theorem emitted_say (line : Text) (m : Machine) : (say line m).emitted = m.emitted ++ [line] := by
  simp [say, emitted, Event.output?]

theorem Agrees.say (h : Agrees m a) (line : Text) :
    Agrees (Machine.say line m) (Machine.say line a) where
  registers := h.registers
  ip := h.ip
  halted := h.halted
  comparison := h.comparison
  output := congrArg (·.push line) h.output
  emitted := by rw [emitted_say, emitted_say, h.emitted]
  steps := h.steps

theorem agrees_lockstep (verbose verbose' : Bool) :
    Lockstep (fun _ => True) verbose verbose' Agrees where
  read h r _ := h.alike.read r
  ip h := h.ip
  halted h := h.halted
  write h r _ value := h.write r value
  compared h _ := ⟨h.registers, h.ip, h.halted, rfl, h.output, h.emitted, h.steps⟩
  said h line := h.say line
  noted h line := h.noted verbose verbose' line
  stopped h := ⟨h.registers, h.ip, rfl, h.comparison, h.output, h.emitted, h.steps⟩
  moved h next := ⟨h.registers, congrArg (fun ip => next.getD (ip + 1)) h.ip, h.halted,
    h.comparison, h.output, h.emitted, congrArg Nat.succ h.steps⟩

theorem Agrees.step (h : Agrees m a) {result : Except RunFault Unit} (verbose' : Bool)
    (hstep : (step code verbose).run.run m = (result, m')) :
    ∃ a', (Machine.step code verbose').run.run a = (result, a') ∧ Agrees m' a' :=
  (agrees_lockstep verbose verbose').step h (fun _ _ _ _ => trivial) hstep

theorem Agrees.advance (h : Agrees m a) (code : List Instruction) (verbose verbose' : Bool)
    (n : Nat) :
    (advance code verbose' n a).1 = (advance code verbose n m).1 ∧
      Agrees (advance code verbose n m).2 (advance code verbose' n a).2 := by
  induction n generalizing m a with
  | zero =>
      simp only [Machine.advance, h.halted, true_and]
      exact h
  | succ n ih =>
      rcases hstep : (Machine.step code verbose).run.run m with ⟨fault | ⟨⟩, m₁⟩
      · obtain ⟨a₁, hstep', h₁⟩ := h.step verbose' hstep
        simp only [Machine.advance, hstep, hstep', h.halted]
        split
        · exact ⟨rfl, h⟩
        · exact ⟨rfl, h₁⟩
      · obtain ⟨a₁, hstep', h₁⟩ := h.step verbose' hstep
        simp only [Machine.advance, hstep, hstep', h.halted, running_of_step hstep]
        exact ih h₁

theorem Agrees.run (h : Agrees m a) (code : List Instruction) (verbose verbose' : Bool)
    (limit : Option Int) :
    (run code verbose' limit a).1 = (run code verbose limit m).1 ∧
      Agrees (run code verbose limit m).2 (run code verbose' limit a).2 := by
  have hallowance : allowance code limit a = allowance code limit m := by
    simp only [allowance, h.steps]
  have hleft := agrees_run code verbose limit m
  have hright := agrees_run code verbose' limit a
  have hadvance := h.advance code verbose verbose' (allowance code limit m)
  rw [hallowance] at hright
  refine ⟨?_, hleft.symm.trans (hadvance.2.trans hright)⟩
  unfold Machine.run
  rw [hallowance]
  generalize Machine.advance code verbose (allowance code limit m) m = result at hadvance ⊢
  generalize Machine.advance code verbose' (allowance code limit m) a = result' at hadvance ⊢
  rcases result with ⟨ending, m₁⟩
  rcases result' with ⟨ending', a₁⟩
  obtain ⟨rfl, h₁⟩ := hadvance
  rcases ending' with _ | _ | fault | _
  · cases limit with
    | none => rfl
    | some most =>
        dsimp only
        rw [h₁.ip]
  all_goals rfl

end LetterMachine.Machine
