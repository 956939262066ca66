import LetterMachine.Text.Lines

namespace LetterMachine.Text

theorem dropReturn_of_getLast?_ne {line : Text} (h : line.getLast? ≠ some '\r') :
    dropReturn line = line := if_neg h

theorem lines_append_break {line : Text} (h : '\n' ∉ line) (rest : Text) :
    lines (line ++ '\n' :: rest) = dropReturn line :: lines rest := by
  have hpieces : (line ++ '\n' :: rest).splitOn '\n' = line :: rest.splitOn '\n' :=
    List.splitOn_append_cons_self_of_not_mem h rest
  obtain ⟨piece, pieces, hrest⟩ :=
    List.exists_cons_of_ne_nil (List.splitOn_ne_nil '\n' rest)
  simp only [lines, hpieces, hrest, List.getLast?_cons_cons, List.dropLast_cons_cons]
  split
  · rw [List.map_cons]
  · rw [List.map_cons]

theorem lines_of_not_mem {line : Text} (hne : line ≠ []) (h : '\n' ∉ line) :
    lines line = [dropReturn line] := by
  have hpieces : line.splitOn '\n' = [line] := List.splitOn_eq_singleton h
  simp [lines, hpieces, hne]

/-- A text that can stand as one line. -/
structure IsLine (line : Text) : Prop where
  nonempty : line ≠ []
  unbroken : '\n' ∉ line
  plain : '\r' ∉ line

theorem IsLine.dropReturn {line : Text} (h : IsLine line) : dropReturn line = line := by
  apply dropReturn_of_getLast?_ne
  intro hlast
  exact h.plain (List.mem_of_getLast? hlast)

theorem lines_intercalate {ls : List Text} (h : ∀ line ∈ ls, IsLine line) :
    lines (['\n'].intercalate ls) = ls := by
  induction ls with
  | nil => rfl
  | cons line ls ih =>
      have hline := h line List.mem_cons_self
      rcases ls with _ | ⟨next, ls⟩
      · rw [List.intercalate_singleton, lines_of_not_mem hline.nonempty hline.unbroken,
          hline.dropReturn]
      · rw [List.intercalate_cons_cons, List.append_assoc, List.singleton_append,
          lines_append_break hline.unbroken, hline.dropReturn,
          ih fun l hl => h l (List.mem_cons_of_mem _ hl)]

theorem lines_flatMap_break {ls : List Text} (h : ∀ line ∈ ls, '\n' ∉ line) :
    lines (ls.flatMap fun line => line ++ ['\n']) = ls.map dropReturn := by
  induction ls with
  | nil => rfl
  | cons line ls ih =>
      rw [List.flatMap_cons, List.append_assoc, List.singleton_append,
        lines_append_break (h line List.mem_cons_self),
        ih fun l hl => h l (List.mem_cons_of_mem _ hl), List.map_cons]

@[elab_as_elim]
theorem line_induction {P : Text → Prop} (last : ∀ line, '\n' ∉ line → P line)
    (step : ∀ line rest, '\n' ∉ line → P rest → P (line ++ '\n' :: rest)) (t : Text) : P t := by
  induction hlength : t.length using Nat.strongRecOn generalizing t with
  | ind n ih =>
      by_cases hbreak : '\n' ∈ t
      · obtain ⟨line, rest, rfl, hline⟩ := List.eq_append_cons_of_mem hbreak
        refine step line rest hline (ih rest.length ?_ rest rfl)
        rw [← hlength, List.length_append, List.length_cons]
        omega
      · exact last t hbreak

/-- Every line of the text has its line feed. -/
def IsWhole (t : Text) : Prop := t = [] ∨ t.getLast? = some '\n'

theorem IsWhole.eq_nil {t : Text} (h : IsWhole t) (hbreak : '\n' ∉ t) : t = [] := by
  rcases h with rfl | hlast
  · rfl
  · exact absurd (List.mem_of_getLast? hlast) hbreak

theorem isWhole_append_break (line rest : Text) :
    IsWhole (line ++ '\n' :: rest) ↔ IsWhole rest := by
  rcases rest with _ | ⟨c, rest⟩
  · simp [IsWhole]
  · simp [IsWhole, List.getLast?_append]

theorem lines_append {s : Text} (hs : IsWhole s) (t : Text) :
    lines (s ++ t) = lines s ++ lines t := by
  induction s using line_induction with
  | last line hline =>
      rw [hs.eq_nil hline]
      rfl
  | step line rest hline ih =>
      have hrest := (isWhole_append_break line rest).mp hs
      rw [List.append_assoc, List.cons_append, lines_append_break hline,
        lines_append_break hline, ih hrest, List.cons_append]

theorem exists_whole_of_lt {t : Text} {n : Nat} (h : n < t.lines.length) :
    ∃ front rest, t = front ++ rest ∧ IsWhole front ∧ front.lines = t.lines.take n := by
  induction t using line_induction generalizing n with
  | last line hline =>
      have hlength : line.lines.length ≤ 1 := by
        rcases line with _ | ⟨c, line⟩
        · exact Nat.zero_le 1
        · simp [lines_of_not_mem (List.cons_ne_nil c line) hline]
      obtain rfl : n = 0 := by omega
      exact ⟨[], line, rfl, .inl rfl, rfl⟩
  | step line rest hline ih =>
      rcases n with _ | n
      · exact ⟨[], _, rfl, .inl rfl, rfl⟩
      · rw [lines_append_break hline, List.length_cons] at h
        obtain ⟨front, rest, rfl, hfront, hlines⟩ := ih (Nat.lt_of_succ_lt_succ h)
        refine ⟨line ++ '\n' :: front, rest, ?_, (isWhole_append_break line front).mpr hfront, ?_⟩
        · simp
        · rw [lines_append_break hline, lines_append_break hline, hlines, List.take_succ_cons]

theorem lines_append_singleton_break (t : Text) :
    (t ++ ['\n']).lines = t.lines ∨ (t ++ ['\n']).lines = t.lines ++ [[]] := by
  induction t using line_induction with
  | last line hline =>
      rw [lines_append_break hline, lines_nil]
      rcases line with _ | ⟨c, line⟩
      · exact .inr rfl
      · rw [lines_of_not_mem (List.cons_ne_nil c line) hline]
        exact .inl rfl
  | step line rest hline ih =>
      rw [List.append_assoc, List.cons_append, lines_append_break hline, lines_append_break hline]
      rcases ih with ih | ih
      · exact .inl (congrArg _ ih)
      · exact .inr (congrArg _ ih)

end LetterMachine.Text
