import LetterMachine.Proofs.Lines
import Mathlib.Data.List.Chain

namespace LetterMachine.Text

/-- Whatever follows a carriage return is a line feed. -/
def Settled (t : Text) : Prop := t.IsChain fun c d => c = '\r' → d = '\n'

theorem settled_cons_of_ne {c : Char} (h : c ≠ '\r') (t : Text) :
    Settled (c :: t) ↔ Settled t := by
  simp [Settled, List.isChain_cons, h]

theorem settled_return_cons_cons (c : Char) (t : Text) :
    Settled ('\r' :: c :: t) ↔ c = '\n' ∧ Settled (c :: t) := by
  simp [Settled]

theorem lines_append_break_of_plain {line : Text} (hfeed : '\n' ∉ line) (hreturn : '\r' ∉ line)
    (rest : Text) : lines (line ++ '\n' :: rest) = line :: lines rest := by
  rw [lines_append_break hfeed, dropReturn_of_getLast?_ne]
  intro hlast
  exact hreturn (List.mem_of_getLast? hlast)

theorem lines_append_return_break {line : Text} (hfeed : '\n' ∉ line) (rest : Text) :
    lines (line ++ '\r' :: '\n' :: rest) = line :: lines rest := by
  have hboth : '\n' ∉ line ++ ['\r'] := by simp [hfeed]
  have hdrop : dropReturn (line ++ ['\r']) = line := by simp [dropReturn]
  have happend := lines_append_break hboth rest
  rwa [hdrop, List.append_assoc] at happend

theorem lines_append_return {line : Text} (hfeed : '\n' ∉ line) :
    lines (line ++ ['\r']) = [line] := by
  have hboth : '\n' ∉ line ++ ['\r'] := by simp [hfeed]
  rw [lines_of_not_mem (by simp) hboth]
  simp [dropReturn]

theorem length_lines_append {front : Text} (h : '\n' ∉ front) {t : Text} (ht : t ≠ []) :
    (front ++ t).lines.length = t.lines.length := by
  induction t using line_induction with
  | last line hline =>
      have hboth : '\n' ∉ front ++ line := by simp [h, hline]
      rw [lines_of_not_mem ht hline, lines_of_not_mem (by simp [ht]) hboth]
      rfl
  | step line rest hline _ =>
      have hboth : '\n' ∉ front ++ line := by simp [h, hline]
      rw [← List.append_assoc, lines_append_break hboth, lines_append_break hline,
        List.length_cons, List.length_cons]

theorem lines_append_unifyBreaks (front : Text) (hfeed : '\n' ∉ front) (hreturn : '\r' ∉ front)
    (t : Text) :
    (front ++ t).lines.length ≤ (front ++ t.unifyBreaks).lines.length ∧
      ((front ++ t.unifyBreaks).lines = (front ++ t).lines ↔ Settled t) := by
  fun_induction unifyBreaks t generalizing front with
  | case1 => simp [Settled]
  | case2 rest ih =>
      obtain ⟨hle, hiff⟩ := ih [] List.not_mem_nil List.not_mem_nil
      rw [lines_append_return_break hfeed, lines_append_break_of_plain hfeed hreturn,
        settled_return_cons_cons, settled_cons_of_ne (by decide)]
      exact ⟨Nat.succ_le_succ hle, by simpa using hiff⟩
  | case3 c rest hrest ih =>
      by_cases hc : c = '\r'
      · subst hc
        rw [if_pos rfl, lines_append_break_of_plain hfeed hreturn]
        rcases rest with _ | ⟨d, rest⟩
        · rw [lines_append_return hfeed]
          exact ⟨Nat.le_refl _, by simp [unifyBreaks, lines_nil, Settled]⟩
        · -- a lone carriage return ends a line in the file alone, so that the file has more lines
          have hd : d ≠ '\n' := fun h => hrest rest rfl (h ▸ rfl)
          have hle := (ih [] List.not_mem_nil List.not_mem_nil).1
          have hboth : '\n' ∉ front ++ ['\r'] := by simp [hfeed]
          have hlength := length_lines_append hboth (List.cons_ne_nil d rest)
          rw [List.append_assoc, List.singleton_append] at hlength
          simp only [List.nil_append] at hle
          refine ⟨?_, ?_⟩
          · rw [hlength, List.length_cons]
            omega
          · rw [settled_return_cons_cons]
            refine iff_of_false ?_ fun h => hd h.1
            intro h
            have hsame := congrArg List.length h
            rw [hlength, List.length_cons] at hsame
            omega
      · rw [if_neg hc, settled_cons_of_ne hc]
        by_cases hn : c = '\n'
        · subst hn
          obtain ⟨hle, hiff⟩ := ih [] List.not_mem_nil List.not_mem_nil
          rw [lines_append_break_of_plain hfeed hreturn, lines_append_break_of_plain hfeed hreturn]
          exact ⟨Nat.succ_le_succ hle, by simpa using hiff⟩
        · have hgrown := ih (front ++ [c]) (by simp [hfeed, Ne.symm hn])
            (by simp [hreturn, Ne.symm hc])
          simpa using hgrown

theorem lines_unifyBreaks_iff (t : Text) : t.unifyBreaks.lines = t.lines ↔ Settled t :=
  (lines_append_unifyBreaks [] List.not_mem_nil List.not_mem_nil t).2

end LetterMachine.Text
