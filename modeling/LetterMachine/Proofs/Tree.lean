import LetterMachine.Files.Tree
import LetterMachine.Proofs.Operand

namespace LetterMachine

theorem foldlM_eq_error {ε α β : Type} {f : β → α → Except ε β} {as : List α} {b : β} {e : ε} :
    as.foldlM f b = .error e ↔
      ∃ front a rest c, as = front ++ a :: rest ∧ front.foldlM f b = .ok c ∧ f c a = .error e := by
  induction as generalizing b with
  | nil =>
      constructor
      · intro h
        cases h
      · rintro ⟨front, a, rest, c, h, -, -⟩
        cases front <;> cases h
  | cons a as ih =>
      rw [List.foldlM_cons, bind_eq_error]
      constructor
      · rintro (h | ⟨c, hc, h⟩)
        · exact ⟨[], a, as, b, rfl, rfl, h⟩
        · obtain ⟨front, a', rest, d, rfl, hd, h⟩ := ih.mp h
          refine ⟨a :: front, a', rest, d, rfl, ?_, h⟩
          rw [List.foldlM_cons, hc]
          exact hd
      · rintro ⟨front, a', rest, d, h, hd, hf⟩
        rcases front with _ | ⟨b', front⟩
        · cases h
          cases hd
          exact .inl hf
        · cases h
          rw [List.foldlM_cons] at hd
          obtain ⟨c, hc, hd⟩ := bind_eq_ok.mp hd
          exact .inr ⟨c, hc, ih.mpr ⟨front, a', rest, d, rfl, hd, hf⟩⟩

namespace Files

theorem byteLength_le_of_isIdle {name : Text} (h : isIdle name = true) : byteLength name ≤ 1 := by
  simp only [isIdle, Bool.or_eq_true, beq_iff_eq] at h
  rcases h with rfl | rfl <;> decide

namespace Tree

variable {t : Tree} {path name : Text} {ns : List Text} {p q place : Place} {e : Entry}

/-- The place at which following a path starts. -/
def start (t : Tree) (path : Text) : Place := if isAbsolute path then [] else t.here

/-- The place to which names lead from another. All places before it have to be directories. -/
def walk (t : Tree) (p : Place) (ns : List Text) : Except Refusal Place := ns.foldlM t.follow p

theorem locate_eq_ok_iff :
    t.locate path = .ok p ↔
      path ≠ [] ∧ byteLength path ≤ maxPath ∧ t.walk (t.start path) (names path) = .ok p := by
  unfold locate
  split
  · rename_i hempty
    simp only [List.isEmpty_iff] at hempty
    simp [hempty]
  · rename_i hne
    simp only [List.isEmpty_iff] at hne
    split
    · rename_i hlong
      simp [Nat.not_le.mpr hlong]
    · rename_i hshort
      simp [hne, Nat.not_lt.mp hshort, walk, start]

theorem follow_eq_ok (h : t.follow p name = .ok q) : t.entry p = some .directory := by
  unfold follow at h
  split at h
  · cases h
  · cases h
  · assumption

theorem follow_eq_nameTooLong_iff :
    t.follow p name = .error .nameTooLong ↔
      t.entry p = some .directory ∧ maxName < byteLength name := by
  cases hentry : t.entry p with
  | none => simp [follow, hentry]
  | some entry =>
      cases entry with
      | file bytes => simp [follow, hentry]
      | directory =>
          -- a name that leads nowhere, or to the parent, is short
          have hidle : maxName < byteLength name → isIdle name = false := by
            intro hlong
            apply Bool.eq_false_iff.mpr
            intro h
            exact absurd hlong (Nat.not_lt.mpr ((byteLength_le_of_isIdle h).trans (by decide)))
          have hparent : maxName < byteLength name → name ≠ ['.', '.'] := by
            rintro hlong rfl
            exact absurd hlong (by decide)
          by_cases hlong : maxName < byteLength name
          · simp [follow, hentry, hidle hlong, hparent hlong, hlong]
          · simp only [follow, hentry, hlong, and_false, iff_false]
            split
            · rintro ⟨⟩
            · split <;> rintro ⟨⟩

/-- The path is too long, or following it gets to a name that is. -/
def Overlong (t : Tree) (path : Text) : Prop :=
  maxPath < byteLength path ∨
    ∃ front name rest p, names path = front ++ name :: rest ∧
      t.walk (t.start path) front = .ok p ∧ t.entry p = some .directory ∧
      maxName < byteLength name

theorem locate_eq_nameTooLong_iff :
    t.locate path = .error .nameTooLong ↔ t.Overlong path := by
  have hwalk : t.walk (t.start path) (names path) = .error .nameTooLong ↔
      ∃ front name rest p, names path = front ++ name :: rest ∧
        t.walk (t.start path) front = .ok p ∧ t.entry p = some .directory ∧
        maxName < byteLength name := by
    simp only [walk, foldlM_eq_error, follow_eq_nameTooLong_iff]
  by_cases hempty : path = []
  · subst hempty
    refine iff_of_false (by rintro ⟨⟩) ?_
    rintro (hlong | ⟨front, name, rest, p, hnames, -, -, hlong⟩)
    · exact absurd hlong (by decide)
    · have hmem : name ∈ names [] := hnames ▸ List.mem_append_right _ List.mem_cons_self
      obtain rfl : name = [] := by simpa [names] using hmem
      exact absurd hlong (by decide)
  · have hne : path.isEmpty = false := by simpa using hempty
    rw [locate, hne, if_neg Bool.false_ne_true]
    by_cases hlong : maxPath < byteLength path
    · rw [if_pos hlong]
      exact iff_of_true rfl (.inl hlong)
    · rw [if_neg hlong, Overlong]
      exact hwalk.trans (or_iff_right hlong).symm

theorem follow_put (hplace : t.entry place = none) (h : t.follow p name = .ok q) :
    (t.put place e).follow p name = .ok q := by
  have hentry := follow_eq_ok h
  have hne : p ≠ place := by
    rintro rfl
    rw [hplace] at hentry
    cases hentry
  rw [← h, follow, follow, entry_put, if_neg hne]

theorem walk_put (hplace : t.entry place = none) (h : t.walk p ns = .ok q) :
    (t.put place e).walk p ns = .ok q := by
  induction ns generalizing p with
  | nil => exact h
  | cons name ns ih =>
      rw [walk, List.foldlM_cons] at h ⊢
      obtain ⟨p', hfollow, h⟩ := bind_eq_ok.mp h
      rw [follow_put hplace hfollow]
      exact ih h

theorem locate_put (hplace : t.entry place = none) (h : t.locate path = .ok p) :
    (t.put place e).locate path = .ok p := by
  obtain ⟨hne, hshort, hwalk⟩ := locate_eq_ok_iff.mp h
  exact locate_eq_ok_iff.mpr ⟨hne, hshort, walk_put hplace hwalk⟩

end Tree

end Files

end LetterMachine
