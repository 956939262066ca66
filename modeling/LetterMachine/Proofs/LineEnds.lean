import LetterMachine.Proofs.Breaks

namespace LetterMachine.Text

inductive LineEnd where
  | feed
  | returnFeed
  deriving DecidableEq, Repr

def LineEnd.text : LineEnd → Text
  | feed => ['\n']
  | returnFeed => ['\r', '\n']

/-- A line without its end: it has no line feed, and no carriage return that a line feed after the
line would take along. -/
structure IsBare (line : Text) : Prop where
  unbroken : '\n' ∉ line
  unreturned : line.getLast? ≠ some '\r'

def joined (ls : List (Text × LineEnd)) : Text := ls.flatMap fun l => l.1 ++ l.2.text

theorem IsBare.dropReturn {line : Text} (h : IsBare line) : dropReturn line = line :=
  dropReturn_of_getLast?_ne h.unreturned

theorem IsBare.lines_append {line : Text} (h : IsBare line) (e : LineEnd) (rest : Text) :
    lines (line ++ e.text ++ rest) = line :: lines rest := by
  cases e with
  | feed =>
      change lines (line ++ ['\n'] ++ rest) = _
      rw [List.append_assoc, List.singleton_append, lines_append_break h.unbroken, h.dropReturn]
  | returnFeed =>
      change lines (line ++ ['\r', '\n'] ++ rest) = _
      rw [List.append_assoc]
      exact lines_append_return_break h.unbroken rest

/-- Joined lines come back in front of the lines of whatever follows them. -/
theorem lines_joined_append {ls : List (Text × LineEnd)} (h : ∀ l ∈ ls, IsBare l.1) (rest : Text) :
    lines (joined ls ++ rest) = ls.map Prod.fst ++ lines rest := by
  induction ls with
  | nil => rfl
  | cons l ls ih =>
      have hrest := ih fun l' hl => h l' (List.mem_cons_of_mem _ hl)
      change lines (l.1 ++ l.2.text ++ joined ls ++ rest) = _
      rw [List.append_assoc _ (joined ls), (h l List.mem_cons_self).lines_append, hrest,
        List.map_cons, List.cons_append]

/-- Splitting a text into lines undoes joining bare lines with any ends, also when the end of the
last line is left off, unless that line is empty; and the lines of two texts are those of the one in
front of the other if that is empty or ends with a line feed. -/
theorem lines_of_joined {ls : List (Text × LineEnd)} (h : ∀ l ∈ ls, IsBare l.1) :
    lines (joined ls) = ls.map Prod.fst ∧
      (∀ front line e, ls = front ++ [(line, e)] → line ≠ [] →
        lines (joined front ++ line) = ls.map Prod.fst) ∧
      ∀ s t, IsWhole s → lines (s ++ t) = lines s ++ lines t := by
  refine ⟨?_, ?_, fun s t hs => lines_append hs t⟩
  · have hjoined := lines_joined_append h []
    rwa [List.append_nil, lines_nil, List.append_nil] at hjoined
  · rintro front line e rfl hne
    have hfront : ∀ l ∈ front, IsBare l.1 := fun l hl => h l (List.mem_append_left _ hl)
    have hline : IsBare line := h (line, e) (List.mem_append_right _ List.mem_cons_self)
    rw [lines_joined_append hfront, lines_of_not_mem hne hline.unbroken, hline.dropReturn,
      List.map_append, List.map_cons, List.map_nil]

theorem lines_of_joined_mixed :
    let ls : List (Text × LineEnd) :=
      [("INC a\r;".toList, .feed), ([], .returnFeed), ([], .feed), ("DEC a".toList, .returnFeed)]
    (∀ l ∈ ls, IsBare l.1) ∧
      lines "INC a\r;\n\r\n\nDEC a\r\n".toList =
        ["INC a\r;".toList, [], [], "DEC a".toList] ∧
      lines "INC a\r;\n\r\n\nDEC a".toList = ["INC a\r;".toList, [], [], "DEC a".toList] := by
  intro ls
  have hbare : ∀ l ∈ ls, IsBare l.1 := by
    intro l hl
    refine ⟨?_, ?_⟩
    · revert l
      decide
    · revert l
      decide
  have hjoined := lines_of_joined hbare
  exact ⟨hbare, hjoined.1, hjoined.2.1 (ls.take 3) "DEC a".toList .returnFeed rfl (by decide)⟩

end LetterMachine.Text
