/-!
Texts as lists of code points, and tables of code point ranges.
-/

namespace LetterMachine

/-- A text is the list of its code points. -/
abbrev Text := List Char

/-- A class of code points, given by its ranges with both ends included. -/
abbrev CodeRanges := List (Nat × Nat)

def CodeRanges.has (table : CodeRanges) (c : Char) : Bool :=
  table.any fun r => decide (r.1 ≤ c.toNat) && decide (c.toNat ≤ r.2)

theorem CodeRanges.has_iff (table : CodeRanges) (c : Char) :
    table.has c = true ↔ ∃ r ∈ table, r.1 ≤ c.toNat ∧ c.toNat ≤ r.2 := by
  simp [CodeRanges.has, List.any_eq_true]

end LetterMachine
