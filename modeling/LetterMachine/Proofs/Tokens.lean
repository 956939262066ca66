import LetterMachine.Assembly
import LetterMachine.Proofs.Lines
import Mathlib.Data.List.TakeWhile

namespace LetterMachine

namespace Text

theorem mem_of_mem_splitOnP {p : Char → Bool} {t w : Text} (hw : w ∈ t.splitOnP p) {c : Char}
    (hc : c ∈ w) : c ∈ t ∧ p c = false := by
  induction t generalizing w with
  | nil =>
      have hempty : w = [] := by simpa using hw
      subst hempty
      cases hc
  | cons d t ih =>
      rw [List.splitOnP_cons_eq_if_modifyHead] at hw
      split at hw
      · rcases List.mem_cons.mp hw with rfl | hw
        · cases hc
        · exact ⟨List.mem_cons_of_mem d (ih hw hc).1, (ih hw hc).2⟩
      · rename_i hd
        obtain ⟨piece, pieces, hpieces⟩ :=
          List.exists_cons_of_ne_nil (List.splitOnP_ne_nil p t)
        rw [hpieces, List.modifyHead_cons] at hw
        rcases List.mem_cons.mp hw with rfl | hw
        · rcases List.mem_cons.mp hc with rfl | hc
          · exact ⟨List.mem_cons_self, by simpa using hd⟩
          · have hpiece := ih (hpieces ▸ List.mem_cons_self) hc
            exact ⟨List.mem_cons_of_mem d hpiece.1, hpiece.2⟩
        · have hpiece := ih (hpieces ▸ List.mem_cons_of_mem piece hw) hc
          exact ⟨List.mem_cons_of_mem d hpiece.1, hpiece.2⟩

theorem words_append_blank {c : Char} (hc : isBlank c = true) (s t : Text) :
    words (s ++ c :: t) = words s ++ words t := by
  rw [words, List.splitOnP_append_cons s t hc, List.filter_append]
  rfl

theorem words_of_solid {w : Text} (hne : w ≠ []) (hsolid : ∀ c ∈ w, isBlank c = false) :
    words w = [w] := by
  rw [words, List.splitOnP_eq_singleton hsolid]
  simp [hne]

theorem words_intercalate {ws : List Text}
    (h : ∀ w ∈ ws, w ≠ [] ∧ ∀ c ∈ w, isBlank c = false) : words ([' '].intercalate ws) = ws := by
  induction ws with
  | nil => rfl
  | cons w ws ih =>
      obtain ⟨hne, hsolid⟩ := h w (by simp)
      rcases ws with _ | ⟨next, ws⟩
      · rw [List.intercalate_singleton, words_of_solid hne hsolid]
      · rw [List.intercalate_cons_cons, List.append_assoc, List.singleton_append,
          words_append_blank (by decide), words_of_solid hne hsolid,
          ih fun v hv => h v (List.mem_cons_of_mem _ hv)]
        rfl

end Text

/-- A text that can stand as one token on a line. -/
structure IsToken (w : Text) : Prop where
  nonempty : w ≠ []
  solid : ∀ c ∈ w, Text.isBlank c = false
  plain : ';' ∉ w

theorem isToken_of_all {w : Text} (hne : w ≠ [])
    (hall : w.all (fun c => !Text.isBlank c && c != ';') = true) : IsToken w := by
  have hchar : ∀ c ∈ w, Text.isBlank c = false ∧ c ≠ ';' := by
    intro c hc
    simpa using List.all_eq_true.mp hall c hc
  exact ⟨hne, fun c hc => (hchar c hc).1, fun hc => (hchar ';' hc).2 rfl⟩

theorem isToken_of_mem_tokensOfLine {line w : Text} (hw : w ∈ tokensOfLine line) : IsToken w where
  nonempty := Text.ne_nil_of_mem_words hw
  solid c hc := (Text.mem_of_mem_splitOnP (List.mem_filter.mp hw).1 hc).2
  plain hc := by
    have hmem := (Text.mem_of_mem_splitOnP (List.mem_filter.mp hw).1 hc).1
    simpa using List.mem_takeWhile_imp hmem

theorem mem_intercalate {α : Type} {separator : List α} {ws : List (List α)} {c : α}
    (hc : c ∈ separator.intercalate ws) : c ∈ separator ∨ ∃ w ∈ ws, c ∈ w := by
  induction ws with
  | nil => cases hc
  | cons w ws ih =>
      rcases ws with _ | ⟨next, ws⟩
      · rw [List.intercalate_singleton] at hc
        exact .inr ⟨w, by simp, hc⟩
      · rw [List.intercalate_cons_cons, List.mem_append, List.mem_append] at hc
        rcases hc with (hc | hc) | hc
        · exact .inr ⟨w, by simp, hc⟩
        · exact .inl hc
        · rcases ih hc with hseparator | ⟨v, hv, hcv⟩
          · exact .inl hseparator
          · exact .inr ⟨v, List.mem_cons_of_mem _ hv, hcv⟩

theorem stripComment_of_not_mem {line : Text} (h : ';' ∉ line) : stripComment line = line := by
  apply List.takeWhile_eq_self_iff.mpr
  intro c hc
  have hne : c ≠ ';' := fun heq => h (heq ▸ hc)
  simpa using hne

theorem tokensOfLine_intercalate {ws : List Text} (h : ∀ w ∈ ws, IsToken w) :
    tokensOfLine ([' '].intercalate ws) = ws := by
  have hplain : ';' ∉ [' '].intercalate ws := by
    intro hc
    rcases mem_intercalate hc with hspace | ⟨w, hw, hcw⟩
    · cases List.mem_singleton.mp hspace
    · exact (h w hw).plain hcw
  rw [tokensOfLine, stripComment_of_not_mem hplain]
  exact Text.words_intercalate fun w hw => ⟨(h w hw).nonempty, (h w hw).solid⟩

theorem isLine_intercalate {ws : List Text} (hne : ws ≠ []) (h : ∀ w ∈ ws, IsToken w) :
    Text.IsLine ([' '].intercalate ws) := by
  have hbreak : ∀ c, c ≠ ' ' → Text.isBlank c = true → c ∉ [' '].intercalate ws := by
    intro c hspace hblank hc
    rcases mem_intercalate hc with hc | ⟨w, hw, hcw⟩
    · exact hspace (List.mem_singleton.mp hc)
    · rw [(h w hw).solid c hcw] at hblank
      cases hblank
  refine ⟨?_, hbreak '\n' (by decide) (by decide), hbreak '\r' (by decide) (by decide)⟩
  intro hnil
  have htokens := tokensOfLine_intercalate h
  rw [hnil] at htokens
  exact hne htokens.symm

theorem IsToken.tokensOfLine {w : Text} (hw : IsToken w) : tokensOfLine w = [w] := by
  have hws : ∀ v ∈ [w], IsToken v := by simpa using hw
  have h := tokensOfLine_intercalate hws
  rwa [List.intercalate_singleton] at h

theorem IsToken.isLine {w : Text} (hw : IsToken w) : Text.IsLine w := by
  have hws : ∀ v ∈ [w], IsToken v := by simpa using hw
  have h := isLine_intercalate (List.cons_ne_nil w []) hws
  rwa [List.intercalate_singleton] at h

end LetterMachine
