import LetterMachine.Text.Basic

namespace LetterMachine

/-- A register, by the place of its letter in the alphabet. -/
abbrev Register := Fin 26

namespace Register

def maxValue : Nat := 65535

def ofLetter? (c : Char) : Option Register :=
  if h : 'a' ≤ c ∧ c ≤ 'z' then
    some ⟨c.toNat - 97, by
      have := UInt32.le_iff_toNat_le.1 h.2
      simp only [Char.toNat]
      have e : ('z' : Char).val.toNat = 122 := rfl
      omega⟩
  else if h : 'A' ≤ c ∧ c ≤ 'Z' then
    some ⟨c.toNat - 65, by
      have := UInt32.le_iff_toNat_le.1 h.2
      simp only [Char.toNat]
      have e : ('Z' : Char).val.toNat = 90 := rfl
      omega⟩
  else none

def ofToken? (token : Text) : Option Register := token.head?.bind ofLetter?

/-- The register that a token of one letter names. -/
def ofName? : Text → Option Register
  | [c] => ofLetter? c
  | _ => none

def ofInt? (n : Int) : Option Register :=
  if h : 0 ≤ n ∧ n < 26 then some ⟨n.toNat, by omega⟩ else none

def letter (r : Register) : Char := Char.ofNat (97 + r.val)

theorem ofLetter?_letter (r : Register) : ofLetter? r.letter = some r := by
  revert r
  decide

def all : List Register := List.finRange 26

end Register

end LetterMachine
