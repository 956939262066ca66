import LetterMachine.Opcode
import LetterMachine.Proofs.Tokens

namespace LetterMachine

namespace Text

theorem isUpper_iff {c : Char} : c.isUpper = true ↔ 0x41 ≤ c.toNat ∧ c.toNat ≤ 0x5A := by
  have hrange : c.isUpper = true ↔ 'A' ≤ c ∧ c ≤ 'Z' := decide_eq_true_iff
  rw [hrange]
  exact and_congr UInt32.le_iff_toNat_le UInt32.le_iff_toNat_le

theorem le_of_mem_upperSequences : ∀ entry ∈ upperSequences, 0x61 ≤ entry.1 := by
  decide +kernel

theorem le_of_mem_upperRuns : ∀ r ∈ upperRuns, 0x61 ≤ r.low := by
  decide +kernel

theorem mapCase_eq_self {c : Char} (hc : c.toNat < 0x61) :
    mapCase upperSequences upperRuns c = [c] := by
  have hlookup : upperSequences.lookup c.toNat = none := by
    apply List.lookup_eq_none_iff.mpr
    intro entry hentry
    have hle := le_of_mem_upperSequences entry hentry
    have hne : c.toNat ≠ entry.1 := by omega
    simpa using hne
  have hfind : upperRuns.find? (fun r => r.has c.toNat) = none := by
    apply List.find?_eq_none.mpr
    intro r hr
    have hle := le_of_mem_upperRuns r hr
    have hlow : ¬r.low ≤ c.toNat := by omega
    simp [CaseRun.has, hlow]
  simp only [mapCase, hlookup, hfind]

theorem upper_cons (c : Char) (t : Text) :
    upper (c :: t) = mapCase upperSequences upperRuns c ++ upper t := List.flatMap_cons

theorem upper_eq_self {t : Text} (h : ∀ c ∈ t, c.toNat < 0x61) : upper t = t := by
  induction t with
  | nil => rfl
  | cons c t ih =>
      have hc := mapCase_eq_self (h c List.mem_cons_self)
      have ht := ih fun d hd => h d (List.mem_cons_of_mem c hd)
      rw [upper_cons, hc, ht, List.singleton_append]

end Text

namespace Opcode

theorem isUpper_of_mem_mnemonic (op : Opcode) : ∀ c ∈ op.mnemonic, c.isUpper = true := by
  have hall : op.mnemonic.all Char.isUpper = true := by
    cases op <;> rfl
  exact List.all_eq_true.mp hall

theorem toNat_lt_of_mem_mnemonic (op : Opcode) : ∀ c ∈ op.mnemonic, c.toNat < 0x61 := by
  intro c hc
  have hhigh := (Text.isUpper_iff.mp (op.isUpper_of_mem_mnemonic c hc)).2
  omega

theorem ofToken?_mnemonic (op : Opcode) : ofToken? op.mnemonic = some op := by
  rw [ofToken?, Text.upper_eq_self op.toNat_lt_of_mem_mnemonic, ofMnemonic?_mnemonic]

theorem isToken_mnemonic (op : Opcode) : IsToken op.mnemonic := by
  apply isToken_of_all
  · cases op <;> exact List.cons_ne_nil _ _
  · cases op <;> rfl

theorem isDirective_mnemonic (op : Opcode) : Assembly.isDirective op.mnemonic = false := by
  cases op <;> rfl

end Opcode

end LetterMachine
