import LetterMachine.Operand
import LetterMachine.Proofs.Tokens

namespace LetterMachine

theorem bind_eq_ok {ε α β : Type} {x : Except ε α} {f : α → Except ε β} {b : β} :
    x >>= f = .ok b ↔ ∃ a, x = .ok a ∧ f a = .ok b := by
  cases x with
  | error e =>
      constructor
      · intro h
        cases h
      · rintro ⟨a, h, -⟩
        cases h
  | ok a =>
      constructor
      · intro h
        exact ⟨a, rfl, h⟩
      · rintro ⟨a', h, hf⟩
        cases h
        exact hf

theorem bind_eq_error {ε α β : Type} {x : Except ε α} {f : α → Except ε β} {e : ε} :
    x >>= f = .error e ↔ x = .error e ∨ ∃ a, x = .ok a ∧ f a = .error e := by
  cases x with
  | error e' =>
      constructor
      · intro h
        cases h
        exact .inl rfl
      · rintro (h | ⟨a, h, -⟩)
        · cases h
          rfl
        · cases h
  | ok a =>
      constructor
      · intro h
        exact .inr ⟨a, rfl, h⟩
      · rintro (h | ⟨a', h, hf⟩)
        · cases h
        · cases h
          exact hf

namespace Text

theorem isDigit_of_mem_ofNat {n : Nat} {c : Char} (hc : c ∈ ofNat n) : c.isDigit = true :=
  Nat.isDigit_of_mem_toDigits (by decide) (by decide) hc

theorem toNat_of_isDigit {c : Char} (hc : c.isDigit = true) : 48 ≤ c.toNat ∧ c.toNat ≤ 57 := by
  simp only [Char.isDigit, Bool.and_eq_true, decide_eq_true_eq, ge_iff_le,
    UInt32.le_iff_toNat_le] at hc
  exact hc

theorem isBlank_of_isDigit {c : Char} (hc : c.isDigit = true) : isBlank c = false := by
  have hrange := toNat_of_isDigit hc
  apply Bool.eq_false_iff.mpr
  intro hblank
  obtain ⟨r, hr, hlow, hhigh⟩ := (CodeRanges.has_iff blankRanges c).mp hblank
  simp only [blankRanges, List.mem_cons, List.not_mem_nil, or_false] at hr
  rcases hr with rfl | rfl | rfl | rfl | rfl | rfl | rfl | rfl | rfl | rfl <;>
    simp only at hlow hhigh <;> omega

theorem isToken_ofNat (n : Nat) : IsToken (ofNat n) where
  nonempty := Nat.toDigits_ne_nil
  solid c hc := isBlank_of_isDigit (isDigit_of_mem_ofNat hc)
  plain hc := absurd (isDigit_of_mem_ofNat hc) (by decide)

end Text

namespace Operand

theorem length_ofNat_le {n : Nat} (hn : n ≤ Register.maxValue) :
    (Text.ofNat n).length ≤ Text.maxDigits := by
  have hlength : (Text.ofNat n).length ≤ 5 := by
    apply (Nat.length_toDigits_le_iff (by decide) (by decide)).mpr
    have hmax : Register.maxValue = 65535 := rfl
    omega
  exact Nat.le_trans hlength (by decide)

theorem decimal?_ofNat {n : Nat} (hn : n ≤ Register.maxValue) :
    decimal? (Text.ofNat n) = .ok (some n) := by
  have hplus : (Text.ofNat n).head? ≠ some '+' := by
    intro hhead
    have hdigit := Text.isDigit_of_mem_ofNat (List.mem_of_head? hhead)
    simp at hdigit
  have hempty : (Text.ofNat n).isEmpty = false := by
    simpa using (Text.isToken_ofNat n).nonempty
  have hdigits : (Text.ofNat n).all Char.isDigit = true :=
    List.all_eq_true.mpr fun c hc => Text.isDigit_of_mem_ofNat hc
  have hlength := Nat.not_lt.mpr (length_ofNat_le hn)
  have hvalue : Nat.ofDigitChars 10 (Text.ofNat n) 0 = n := Nat.ofDigitChars_ten_toDigits
  simp only [decimal?, if_neg hplus, hempty, hdigits, Bool.not_true, Bool.or_self,
    Bool.false_eq_true, if_false, if_neg hlength, hvalue, if_pos hn]

theorem isMarker_of_isDigit {c : Char} (hc : c.isDigit = true) : isMarker c = false := by
  apply Bool.eq_false_iff.mpr
  intro hmarker
  simp only [isMarker, Bool.or_eq_true, beq_iff_eq] at hmarker
  rcases hmarker with rfl | rfl <;> cases hc

theorem isBinary_of_head {c : Char} (hc : isMarker c = false) (rest : Text) :
    isBinary (c :: rest) = false := by
  rw [isBinary, List.head?_cons, Option.any_some, hc, Bool.false_and]

theorem isBinary_ofNat (n : Nat) : isBinary (Text.ofNat n) = false := by
  rcases htext : Text.ofNat n with _ | ⟨c, rest⟩
  · rfl
  · have hdigit : c.isDigit = true := by
      apply @Text.isDigit_of_mem_ofNat n
      rw [htext]
      exact List.mem_cons_self
    exact isBinary_of_head (isMarker_of_isDigit hdigit) rest

theorem read_ofNat {n : Nat} (hn : n ≤ Register.maxValue) (strict : Bool) :
    read strict (Text.ofNat n) = .ok n := by
  simp only [read, isBinary_ofNat, decimal?_ofNat hn]
  rfl

theorem readSource_ofNat {n : Nat} (hn : n ≤ Register.maxValue) (strict : Bool) :
    readSource strict (Text.ofNat n) = .ok (.literal n) := by
  simp only [readSource, decimal?_ofNat hn]
  rfl

theorem decimal?_le {token : Text} {n : Nat} (h : decimal? token = .ok (some n)) :
    n ≤ Register.maxValue := by
  unfold decimal? at h
  extract_lets digits at h
  split at h
  · cases h
  · split at h
    · cases h
    · split at h
      · rename_i hle
        rw [Except.ok.injEq, Option.some.injEq] at h
        exact h ▸ hle
      · cases h

theorem binary_le {token : Text} {n : Nat} (h : binary token = .ok n) : n ≤ Register.maxValue := by
  simp only [binary] at h
  split at h
  · cases h
  · split at h
    · rename_i hle
      cases h
      exact hle
    · cases h

theorem register_lt {strict : Bool} {token : Text} {n : Nat} (h : register strict token = .ok n) :
    n < 26 := by
  unfold register at h
  split at h
  · rename_i r _
    cases h
    exact r.isLt
  · split at h
    · cases h
    · cases h
      decide

theorem register_le {strict : Bool} {token : Text} {n : Nat} (h : register strict token = .ok n) :
    n ≤ Register.maxValue := by
  have hlt := register_lt h
  have hmax : Register.maxValue = 65535 := rfl
  omega

theorem read_le {strict : Bool} {token : Text} {n : Nat} (h : read strict token = .ok n) :
    n ≤ Register.maxValue := by
  unfold read at h
  split at h
  · exact binary_le h
  · obtain ⟨value?, hdecimal, h⟩ := bind_eq_ok.mp h
    cases value? with
    | none => exact register_le h
    | some value =>
        cases h
        exact decimal?_le hdecimal

theorem readSource_le {strict : Bool} {token : Text} {source : Source}
    (h : readSource strict token = .ok source) :
    ∃ n, n ≤ Register.maxValue ∧ (source = .literal n ∨ source = .register n) := by
  obtain ⟨value?, hdecimal, h⟩ := bind_eq_ok.mp h
  cases value? with
  | some value =>
      cases h
      exact ⟨value, decimal?_le hdecimal, .inl rfl⟩
  | none =>
      obtain ⟨number, hregister, h⟩ := bind_eq_ok.mp h
      cases h
      exact ⟨number, register_le hregister, .inr rfl⟩

end Operand

end LetterMachine
