import LetterMachine.Proofs.Call
import LetterMachine.Proofs.Line

namespace LetterMachine

namespace Assembly.Draft

variable {flags : AssemblyFlags} {n : Nat} {d d' : Draft}

theorem note_of_quiet (hquiet : flags.verbose = false) (d : Draft) (text : Text) :
    d.note flags text = d := by
  rw [Draft.note, hquiet]
  rfl

theorem Lined.notes_eq (hquiet : flags.verbose = false) {tokens : List Text}
    {fault : Option LineFault} (h : Lined flags n d tokens d' fault) : d'.notes = d.notes := by
  cases h with
  | closed hend hopened =>
      simp only [Draft.close, hopened]
      rw [note_of_quiet hquiet]
  | added hspelled =>
      unfold Draft.add
      split <;> rfl
  | blank | endWithoutBlock | opened | duplicate | nested | undecodable => rfl

theorem notes_lines (hquiet : flags.verbose = false) (n : Nat) (ls : List Text) (d : Draft) :
    (Draft.lines flags n ls d).1.notes = d.notes := by
  apply lines_kept (P := fun e => e.notes = d.notes) _ rfl
  intro n text e he
  have hlined := lined_line flags n e (tokensOfLine text)
  exact (hlined.notes_eq hquiet).trans he

end Assembly.Draft

open Assembly

theorem assemble_notes {flags : AssemblyFlags} (hquiet : flags.verbose = false) (source : Text) :
    (assemble flags source).notes = [] := by
  have hnotes := Draft.notes_lines hquiet 0 source.lines (Draft.start flags source)
  have hstart : (Draft.start flags source).notes = #[] := by
    rw [Draft.start, Draft.note_of_quiet hquiet]
  unfold assemble
  dsimp only
  rw [hstart, Draft.start] at hnotes
  generalize Draft.lines flags 0 source.lines (Draft.note {} flags (tokensNote source)) = result
    at hnotes ⊢
  rcases result with ⟨d, fault⟩
  dsimp only at hnotes ⊢
  split <;> simp [hnotes, hquiet]

namespace Machine

/-- Nothing is shown but what is put out. -/
def Quiet (m : Machine) : Prop := m.feed.toList = m.output.toList.map Event.output

theorem Quiet.say {m : Machine} (hm : Quiet m) (line : Text) : Quiet (say line m) := by
  unfold Quiet at hm ⊢
  simp [Machine.say, hm]

theorem Quiet.performed {m m' : Machine} (hm : Quiet m) {a : Action}
    {result : Except FaultCause (Option Int)} (h : Performed m a result m') : Quiet m' := by
  cases h with
  | compare left right => exact Quiet.say (m := { m with comparison := _ }) hm _
  | print r => exact hm.say _
  | negative | overflow | divisionByZero | stored | swap | jump | halt => exact hm

theorem kept_quiet (code : List Instruction) : Kept code false Quiet where
  step hm hstepped := by
    cases hstepped with
    | halted | ipOutside | operand | unshowable => exact hm
    | failed _ hperform => exact hm.performed hperform
    | done _ hperform =>
        have hperformed := Quiet.performed hm hperform
        exact hperformed
  noted _ hm := hm

theorem shown_run (code : List Instruction) (limit : Option Int) :
    (run code false limit {}).2.feed.toList.map Event.line =
      (run code false limit {}).2.output.toList := by
  have hquiet : Quiet (run code false limit {}).2 := (kept_quiet code).run limit rfl
  rw [hquiet, List.map_map]
  exact List.map_id _

end Machine

end LetterMachine
