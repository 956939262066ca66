import LetterMachine.Proofs.Mnemonic
import Mathlib.Data.List.Forall2

namespace LetterMachine

namespace Text

/-- The character stands for a capital letter: it is the letter or its small form, or it is the
dotless i or the long s, which have no capital letter of their own. -/
def StandsFor (letter c : Char) : Prop :=
  c = letter ∨ c = letter.toLower ∨ (letter = 'I' ∧ c = '\u0131') ∨ (letter = 'S' ∧ c = '\u017F')

instance (letter c : Char) : Decidable (StandsFor letter c) :=
  inferInstanceAs (Decidable (c = letter ∨ _))

theorem exists_of_isUpper {c : Char} (h : c.isUpper = true) :
    ∃ n < 26, c = Char.ofNat (0x41 + n) := by
  obtain ⟨hlow, hhigh⟩ := isUpper_iff.mp h
  refine ⟨c.toNat - 0x41, by omega, ?_⟩
  rw [Nat.add_sub_cancel' hlow, Char.ofNat_toNat]

theorem le_of_isUpper_ofNat {n : Nat} (h : (Char.ofNat n).isUpper = true) : n ≤ 0x5A := by
  by_cases hvalid : n.isValidChar
  · rw [Char.ofNat, dif_pos hvalid] at h
    exact (isUpper_iff.mp h).2
  · rw [Char.ofNat, dif_neg hvalid] at h
    cases h

theorem toLower_ofNat : ∀ n < 26, (Char.ofNat (0x41 + n)).toLower = Char.ofNat (0x61 + n) := by
  decide

theorem mapCase_ofNat : ∀ n < 26,
    mapCase upperSequences upperRuns (Char.ofNat (0x61 + n)) = [Char.ofNat (0x41 + n)] := by
  decide +kernel

theorem eq_of_mem_upperRuns : ∀ r ∈ upperRuns, r.low + r.shift ≤ 0x5A →
    r = ⟨0x61, 0x7A, 1, -32⟩ ∨ r = ⟨0x131, 0x131, 1, -232⟩ ∨ r = ⟨0x17F, 0x17F, 1, -300⟩ := by
  decide +kernel

theorem mapCase_of_standsFor {letter c : Char} (hletter : letter.isUpper = true)
    (h : StandsFor letter c) : mapCase upperSequences upperRuns c = [letter] := by
  rcases h with rfl | rfl | ⟨rfl, rfl⟩ | ⟨rfl, rfl⟩
  · have hhigh := (isUpper_iff.mp hletter).2
    exact mapCase_eq_self (by omega)
  · obtain ⟨n, hn, rfl⟩ := exists_of_isUpper hletter
    rw [toLower_ofNat n hn, mapCase_ofNat n hn]
  · decide +kernel
  · decide +kernel

theorem standsFor_of_mem_upperRuns {c : Char} {r : CaseRun} (hr : r ∈ upperRuns)
    (hhas : r.has c.toNat = true)
    (hletter : (Char.ofNat (c.toNat + r.shift).toNat).isUpper = true) :
    StandsFor (Char.ofNat (c.toNat + r.shift).toNat) c := by
  simp only [CaseRun.has, Bool.and_eq_true, decide_eq_true_eq] at hhas
  obtain ⟨⟨hlow, hhigh⟩, -⟩ := hhas
  have hle := le_of_isUpper_ofNat hletter
  -- the runs of the small letters, of the dotless i and of the long s
  rcases eq_of_mem_upperRuns r hr (by omega) with rfl | rfl | rfl
  · right; left
    dsimp only at hlow hhigh ⊢
    obtain ⟨n, hn⟩ := Nat.exists_eq_add_of_le hlow
    have hcapital : (c.toNat + (-32 : Int)).toNat = 0x41 + n := by omega
    rw [hcapital, toLower_ofNat n (by omega), ← hn, Char.ofNat_toNat]
  · right; right; left
    have hc : c.toNat = 0x131 := Nat.le_antisymm hhigh hlow
    rw [hc]
    exact ⟨by decide, Char.toNat_inj.mp hc⟩
  · right; right; right
    have hc : c.toNat = 0x17F := Nat.le_antisymm hhigh hlow
    rw [hc]
    exact ⟨by decide, Char.toNat_inj.mp hc⟩

theorem mapCase_cases (c : Char) :
    (∃ entry ∈ upperSequences,
      mapCase upperSequences upperRuns c = entry.2.map Char.ofNat) ∨
    (∃ r ∈ upperRuns, r.has c.toNat = true ∧
      mapCase upperSequences upperRuns c = [Char.ofNat (c.toNat + r.shift).toNat]) ∨
    mapCase upperSequences upperRuns c = [c] := by
  unfold mapCase
  cases hlookup : upperSequences.lookup c.toNat with
  | some form =>
      obtain ⟨front, rest, heq, -⟩ := List.lookup_eq_some_iff.mp hlookup
      exact .inl ⟨(c.toNat, form), by simp [heq], rfl⟩
  | none =>
      right
      cases hfind : upperRuns.find? fun r => r.has c.toNat with
      | some r =>
          have hhas : r.has c.toNat = true := by simpa using List.find?_some hfind
          exact .inl ⟨r, List.mem_of_find?_eq_some hfind, hhas, rfl⟩
      | none => exact .inr rfl

theorem upper_singleton (c : Char) : upper [c] = mapCase upperSequences upperRuns c :=
  List.flatMap_singleton ..

/-- A text of capital letters in which no upper-case form of several characters occurs. -/
structure IsSimple (w : Text) : Prop where
  capital : ∀ c ∈ w, c.isUpper = true
  whole : ∀ entry ∈ upperSequences, ¬entry.2.map Char.ofNat <:+: w

namespace IsSimple

variable {w t : Text} {letter c : Char}

theorem tail (hw : IsSimple (letter :: w)) : IsSimple w where
  capital c hc := hw.capital c (List.mem_cons_of_mem letter hc)
  whole entry hentry h := hw.whole entry hentry (List.infix_cons h)

/-- A character that goes into the text in upper case is one of its letters there. -/
theorem exists_letter (hw : IsSimple w) (h : upper t = w) (hc : c ∈ t) :
    ∃ letter ∈ w, upper [c] = [letter] ∧ StandsFor letter c := by
  have hinfix : mapCase upperSequences upperRuns c <:+: w :=
    h ▸ List.infix_flatMap_of_mem hc (mapCase upperSequences upperRuns)
  rw [upper_singleton]
  -- what a character becomes stands in one piece in the text, so it cannot be a whole sequence
  rcases mapCase_cases c with ⟨entry, hentry, hform⟩ | ⟨r, hr, hhas, hform⟩ | hform
  · rw [hform] at hinfix
    exact absurd hinfix (hw.whole entry hentry)
  · rw [hform] at hinfix
    have hmem := hinfix.subset (List.mem_singleton_self _)
    exact ⟨_, hmem, hform, standsFor_of_mem_upperRuns hr hhas (hw.capital _ hmem)⟩
  · rw [hform] at hinfix
    exact ⟨c, hinfix.subset (List.mem_singleton_self c), hform, .inl rfl⟩

theorem forall₂_of_upper (hw : IsSimple w) (h : upper t = w) : List.Forall₂ StandsFor w t := by
  induction t generalizing w with
  | nil =>
      subst h
      exact .nil
  | cons c t ih =>
      obtain ⟨letter, -, hform, hstands⟩ := hw.exists_letter h List.mem_cons_self
      rw [upper_cons, ← upper_singleton, hform, List.singleton_append] at h
      subst h
      exact .cons hstands (ih hw.tail rfl)

theorem upper_of_forall₂ (hw : IsSimple w) (h : List.Forall₂ StandsFor w t) : upper t = w := by
  induction h with
  | nil => rfl
  | cons hstands _ ih =>
      have hform := mapCase_of_standsFor (hw.capital _ List.mem_cons_self) hstands
      rw [upper_cons, hform, ih hw.tail, List.singleton_append]

end IsSimple

end Text

namespace Opcode

theorem isSimple_mnemonic (op : Opcode) : Text.IsSimple op.mnemonic where
  capital := op.isUpper_of_mem_mnemonic
  whole := by
    cases op <;> decide +kernel

/-- The token has one character for each letter of the mnemonic, which stands for this letter. -/
def SpelledBy (op : Opcode) (token : Text) : Prop := List.Forall₂ Text.StandsFor op.mnemonic token

instance (op : Opcode) (token : Text) : Decidable (op.SpelledBy token) :=
  inferInstanceAs (Decidable (List.Forall₂ _ _ _))

theorem ofToken?_eq_some_iff {token : Text} {op : Opcode} :
    ofToken? token = some op ↔ op.SpelledBy token := by
  rw [ofToken?, ofMnemonic?_eq_some_iff, eq_comm]
  exact ⟨op.isSimple_mnemonic.forall₂_of_upper, op.isSimple_mnemonic.upper_of_forall₂⟩

theorem ofToken?_eq_none_iff {token : Text} :
    ofToken? token = none ↔ ∀ op : Opcode, ¬op.SpelledBy token := by
  rw [Option.eq_none_iff_forall_ne_some]
  exact forall_congr' fun op => not_congr ofToken?_eq_some_iff

theorem ofToken?_of_several {token : Text} {c : Char} (hc : c ∈ token)
    (hseveral : 1 < (Text.upper [c]).length) : ofToken? token = none := by
  cases h : ofToken? token with
  | none => rfl
  | some op =>
      have hupper := ((ofMnemonic?_eq_some_iff _ _).mp h).symm
      obtain ⟨letter, -, hform, -⟩ := op.isSimple_mnemonic.exists_letter hupper hc
      rw [hform] at hseveral
      exact absurd hseveral (Nat.lt_irrefl 1)

/-- A token names an operation exactly if it has one character for each letter of the mnemonic: the
letter itself, its small form, or the dotless i or the long s in place of it. All other tokens are
refused, and among them every token with a character that becomes several in upper case. -/
theorem ofToken?_eq_some_iff_spelledBy (token : Text) :
    (∀ op, ofToken? token = some op ↔ op.SpelledBy token) ∧
      (ofToken? token = none ↔ ∀ op : Opcode, ¬op.SpelledBy token) ∧
      ∀ c ∈ token, 1 < (Text.upper [c]).length → ofToken? token = none :=
  ⟨fun _ => ofToken?_eq_some_iff, ofToken?_eq_none_iff, fun _ => ofToken?_of_several⟩

theorem ofToken?_dotless_print :
    ofToken? "pr\u0131nT".toList = some .print ∧
      '\uFB05' ∈ "\uFB05op".toList ∧ 1 < (Text.upper ['\uFB05']).length ∧
      ofToken? "\uFB05op".toList = none := by
  have hmem : '\uFB05' ∈ "\uFB05op".toList := by decide
  have hseveral : 1 < (Text.upper ['\uFB05']).length := by decide +kernel
  have hspelled : Opcode.print.SpelledBy "pr\u0131nT".toList := by decide
  refine ⟨((ofToken?_eq_some_iff_spelledBy _).1 .print).mpr hspelled, hmem, hseveral, ?_⟩
  exact (ofToken?_eq_some_iff_spelledBy _).2.2 _ hmem hseveral

end Opcode

end LetterMachine
