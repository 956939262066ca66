import LetterMachine.Proofs.Continuation
import LetterMachine.Proofs.Strictness
import Mathlib.Data.List.Induction
import Mathlib.Data.Nat.Digits.Defs

/-!
Operands are resolved in the order of their notations. A token with a marked digit is a binary
literal or an error, a decimal numeral of a word stands for its value, and of any other token
the first letter counts.
-/

namespace LetterMachine

namespace Operand

/-- The number that digits denote in positional notation. -/
def positional (base : Nat) (digits : Text) : Nat :=
  Nat.ofDigits base (digits.reverse.map fun c => c.toNat - '0'.toNat)

theorem positional_append (base : Nat) (digits : Text) (c : Char) :
    positional base (digits ++ [c]) =
      base * positional base digits + (c.toNat - '0'.toNat) := by
  rw [positional, List.reverse_append, List.reverse_singleton, List.singleton_append, List.map_cons,
    Nat.ofDigits_cons, Nat.add_comm]
  rfl

theorem ofDigitChars_eq_positional (base : Nat) (digits : Text) :
    Nat.ofDigitChars base digits 0 = positional base digits := by
  -- the digits are read from the left, so that the last one is the step
  induction digits using List.reverseRecOn with
  | nil => rfl
  | append_singleton digits c ih =>
      rw [positional_append, ← ih]
      simp [Nat.ofDigitChars, List.foldl_append]

/-- The token starts with a marker, and somewhere in it a digit follows a marker. -/
structure Marked (token : Text) : Prop where
  head : token.head? = some 'b' ∨ token.head? = some 'B'
  digit : ∃ marker digit, [marker, digit] <:+: token ∧ (marker = 'b' ∨ marker = 'B') ∧
    digit.isDigit = true

theorem isMarker_iff {c : Char} : isMarker c = true ↔ c = 'b' ∨ c = 'B' := by
  simp [isMarker]

/-- The scan finds a digit right after the marker found before, or two neighbours in the rest. -/
theorem scanMarked_iff {found : Bool} {token : Text} :
    scanMarked found token = true ↔
      (found = true ∧ ∃ digit rest, token = digit :: rest ∧ digit.isDigit = true) ∨
        ∃ marker digit, [marker, digit] <:+: token ∧ (marker = 'b' ∨ marker = 'B') ∧
          digit.isDigit = true := by
  induction token generalizing found with
  | nil => simp [scanMarked]
  | cons c rest ih =>
      have hneighbours : (∃ marker digit, [marker, digit] <:+: c :: rest ∧
          (marker = 'b' ∨ marker = 'B') ∧ digit.isDigit = true) ↔
          scanMarked (isMarker c) rest = true := by
        rw [ih, isMarker_iff]
        constructor
        · rintro ⟨marker, digit, hinfix, hmarker, hdigit⟩
          rcases List.infix_cons_iff.mp hinfix with hprefix | hinfix
          · obtain ⟨rfl, tail, rfl⟩ := List.cons_prefix_cons.mp hprefix
            exact .inl ⟨hmarker, digit, tail, rfl, hdigit⟩
          · exact .inr ⟨marker, digit, hinfix, hmarker, hdigit⟩
        · rintro (⟨hmarker, digit, tail, rfl, hdigit⟩ | ⟨marker, digit, hinfix, hmarked⟩)
          · exact ⟨c, digit, ⟨[], tail, rfl⟩, hmarker, hdigit⟩
          · exact ⟨marker, digit, hinfix.trans (List.suffix_cons c rest).isInfix, hmarked⟩
      have hstart : (∃ digit tail, c :: rest = digit :: tail ∧ digit.isDigit = true) ↔
          c.isDigit = true := by simp
      rw [hneighbours, hstart, scanMarked]
      split
      · rename_i hfound
        exact iff_of_true rfl (.inl (Bool.and_eq_true_iff.mp hfound))
      · rename_i hfound
        rw [Bool.and_eq_true] at hfound
        exact (or_iff_right hfound).symm

theorem hasMarkedDigit_iff {token : Text} :
    hasMarkedDigit token = true ↔
      ∃ marker digit, [marker, digit] <:+: token ∧ (marker = 'b' ∨ marker = 'B') ∧
        digit.isDigit = true := by
  rw [hasMarkedDigit, scanMarked_iff]
  exact or_iff_right nofun

theorem isBinary_iff {token : Text} : isBinary token = true ↔ Marked token := by
  rw [isBinary, Bool.and_eq_true, hasMarkedDigit_iff]
  constructor
  · rintro ⟨hhead, hdigit⟩
    refine ⟨?_, hdigit⟩
    obtain ⟨c, hc, hmarker⟩ := (Option.any_eq_true _ _).mp hhead
    rw [hc]
    simpa using isMarker_iff.mp hmarker
  · rintro ⟨hhead | hhead, hdigit⟩ <;> exact ⟨by rw [hhead]; rfl, hdigit⟩

/-- At least one binary digit, and nothing else. -/
structure Bits (digits : Text) : Prop where
  nonempty : digits ≠ []
  bit : ∀ c ∈ digits, c = '0' ∨ c = '1'

theorem bits_iff {digits : Text} :
    (digits.isEmpty || !digits.all fun c => c == '0' || c == '1') = false ↔ Bits digits := by
  simp only [Bool.or_eq_false_iff, List.isEmpty_eq_false_iff, Bool.not_eq_false', List.all_eq_true,
    Bool.or_eq_true, beq_iff_eq]
  exact ⟨fun ⟨hne, hbit⟩ => ⟨hne, hbit⟩, fun ⟨hne, hbit⟩ => ⟨hne, hbit⟩⟩

/-- The token is a decimal numeral of the number, with one plus sign in front of it or without. -/
def Numeral (token : Text) (n : Nat) : Prop :=
  ∃ digits, (token = digits ∨ token = '+' :: digits) ∧ digits ≠ [] ∧
    (∀ c ∈ digits, c.isDigit = true) ∧ positional 10 digits = n

theorem decimal_iff {token : Text} (hshort : ∀ digits, ¬Overlong token digits) {n : Nat} :
    Decimal token n ↔ Numeral token n ∧ n ≤ 65535 := by
  constructor
  · rintro ⟨⟨digits, hspelled, hne, hdigit, -, hvalue⟩, hle⟩
    rw [ofDigitChars_eq_positional] at hvalue
    exact ⟨⟨digits, hspelled, hne, hdigit, hvalue⟩, hle⟩
  · rintro ⟨⟨digits, hspelled, hne, hdigit, hvalue⟩, hle⟩
    have hlength : digits.length ≤ Text.maxDigits :=
      Nat.le_of_not_lt fun hlong => hshort digits ⟨hspelled, hdigit, hlong⟩
    rw [← ofDigitChars_eq_positional] at hvalue
    exact ⟨⟨digits, hspelled, hne, hdigit, hlength, hvalue⟩, hle⟩

end Operand

namespace Register

def lowerCase : Text := "abcdefghijklmnopqrstuvwxyz".toList

def upperCase : Text := "ABCDEFGHIJKLMNOPQRSTUVWXYZ".toList

theorem lowerCase_getElem? (r : Register) :
    lowerCase[r.val]? = some (Char.ofNat (97 + r.val)) := by
  revert r
  decide

theorem upperCase_getElem? (r : Register) :
    upperCase[r.val]? = some (Char.ofNat (65 + r.val)) := by
  revert r
  decide

theorem ofLetter?_upper (r : Register) : ofLetter? (Char.ofNat (65 + r.val)) = some r := by
  revert r
  decide

theorem ofLetter?_eq_some_iff {c : Char} {r : Register} :
    ofLetter? c = some r ↔ lowerCase[r.val]? = some c ∨ upperCase[r.val]? = some c := by
  rw [lowerCase_getElem?, upperCase_getElem?, Option.some.injEq, Option.some.injEq]
  constructor
  · intro h
    unfold ofLetter? at h
    split at h
    · rename_i hlower
      left
      have hlow : 97 ≤ c.toNat := UInt32.le_iff_toNat_le.mp hlower.1
      rw [← Option.some.inj h]
      change Char.ofNat (97 + (c.toNat - 97)) = c
      rw [Nat.add_sub_cancel' hlow, Char.ofNat_toNat]
    · split at h
      · rename_i hupper
        right
        have hlow : 65 ≤ c.toNat := UInt32.le_iff_toNat_le.mp hupper.1
        rw [← Option.some.inj h]
        change Char.ofNat (65 + (c.toNat - 65)) = c
        rw [Nat.add_sub_cancel' hlow, Char.ofNat_toNat]
      · cases h
  · rintro (rfl | rfl)
    · exact ofLetter?_letter r
    · exact ofLetter?_upper r

/-- The token starts with the letter at the place in the alphabet, in either case. -/
def LetterAt (token : Text) (place : Nat) : Prop :=
  ∃ c, token.head? = some c ∧ (lowerCase[place]? = some c ∨ upperCase[place]? = some c)

theorem LetterAt.lt {token : Text} {place : Nat} (h : LetterAt token place) : place < 26 := by
  obtain ⟨c, -, hplace | hplace⟩ := h
  · exact (List.getElem?_eq_some_iff.mp hplace).1
  · exact (List.getElem?_eq_some_iff.mp hplace).1

theorem ofToken?_eq_some_iff {token : Text} {r : Register} :
    ofToken? token = some r ↔ LetterAt token r.val := by
  simp only [ofToken?, Option.bind_eq_some_iff, ofLetter?_eq_some_iff, LetterAt]

theorem ofToken?_eq_none {token : Text} (h : ∀ place, ¬LetterAt token place) :
    ofToken? token = none := by
  apply Option.eq_none_iff_forall_ne_some.mpr
  intro r hr
  exact h r.val (ofToken?_eq_some_iff.mp hr)

end Register

namespace Operand

open Register (LetterAt)

/-- What becomes of a token: the notations are tried one after the other. -/
inductive Resolves (strict : Bool) (token : Text) : Except LineFault Nat → Prop
  | binary (hmarked : Marked token) (hbits : Bits token.tail)
      (hle : positional 2 token.tail ≤ 65535) :
      Resolves strict token (.ok (positional 2 token.tail))
  | binaryTooLarge (hmarked : Marked token) (hbits : Bits token.tail)
      (hlt : 65535 < positional 2 token.tail) :
      Resolves strict token (.error (.binaryTooLarge token))
  | notBinary (hmarked : Marked token) (hbits : ¬Bits token.tail) :
      Resolves strict token (.error (.notBinary token))
  | decimal {n : Nat} (hmarked : ¬Marked token) (hnumeral : Numeral token n) (hle : n ≤ 65535) :
      Resolves strict token (.ok n)
  | letter {place : Nat} (hmarked : ¬Marked token) (hnumeral : ∀ n ≤ 65535, ¬Numeral token n)
      (hletter : LetterAt token place) : Resolves strict token (.ok place)
  | zero (hlenient : strict = false) (hmarked : ¬Marked token)
      (hnumeral : ∀ n ≤ 65535, ¬Numeral token n) (hletter : ∀ place, ¬LetterAt token place) :
      Resolves strict token (.ok 0)
  | unresolved (hstrict : strict = true) (hmarked : ¬Marked token)
      (hnumeral : ∀ n ≤ 65535, ¬Numeral token n) (hletter : ∀ place, ¬LetterAt token place) :
      Resolves strict token (.error (.unresolved token))

variable {strict : Bool} {token : Text}

theorem read_of_marked (h : Marked token) : read strict token = binary token := by
  rw [read, isBinary_iff.mpr h]
  rfl

theorem read_of_numeral (hshort : ∀ digits, ¬Overlong token digits) (hmarked : ¬Marked token)
    {n : Nat} (hnumeral : Numeral token n) (hle : n ≤ 65535) : read strict token = .ok n := by
  have hdecimal := decimal?_eq_some_iff.mpr ((decimal_iff hshort).mpr ⟨hnumeral, hle⟩)
  rw [read, if_neg (mt isBinary_iff.mp hmarked), hdecimal]
  rfl

theorem read_of_not_numeral (hshort : ∀ digits, ¬Overlong token digits) (hmarked : ¬Marked token)
    (hnumeral : ∀ n ≤ 65535, ¬Numeral token n) : read strict token = register strict token := by
  have hdecimal : decimal? token = .ok none := by
    rcases hvalue : decimal? token with fault | _ | n
    · obtain ⟨digits, hlong, -⟩ := decimal?_eq_error_iff.mp hvalue
      exact absurd hlong (hshort digits)
    · rfl
    · obtain ⟨hn, hle⟩ := (decimal_iff hshort).mp (decimal?_eq_some_iff.mp hvalue)
      exact absurd hn (hnumeral n hle)
  rw [read, if_neg (mt isBinary_iff.mp hmarked), hdecimal]
  rfl

theorem binary_of_bits (h : Bits token.tail) :
    binary token = if positional 2 token.tail ≤ 65535 then .ok (positional 2 token.tail)
      else .error (.binaryTooLarge token) := by
  simp only [binary, bits_iff.mpr h, ofDigitChars_eq_positional]
  rfl

theorem binary_of_not_bits (h : ¬Bits token.tail) : binary token = .error (.notBinary token) := by
  rw [← bits_iff, Bool.not_eq_false] at h
  simp only [binary, h, if_true]

theorem Resolves.read_eq (hshort : ∀ digits, ¬Overlong token digits)
    {result : Except LineFault Nat} (h : Resolves strict token result) :
    read strict token = result := by
  cases h with
  | binary hmarked hbits hle => rw [read_of_marked hmarked, binary_of_bits hbits, if_pos hle]
  | binaryTooLarge hmarked hbits hlt =>
      rw [read_of_marked hmarked, binary_of_bits hbits, if_neg (Nat.not_le.mpr hlt)]
  | notBinary hmarked hbits => rw [read_of_marked hmarked, binary_of_not_bits hbits]
  | decimal hmarked hnumeral hle => exact read_of_numeral hshort hmarked hnumeral hle
  | @letter place hmarked hnumeral hletter =>
      have hregister : Register.ofToken? token = some ⟨place, hletter.lt⟩ :=
        Register.ofToken?_eq_some_iff.mpr hletter
      rw [read_of_not_numeral hshort hmarked hnumeral, register, hregister]
  | zero hlenient hmarked hnumeral hletter =>
      rw [read_of_not_numeral hshort hmarked hnumeral, register,
        Register.ofToken?_eq_none hletter, hlenient]
      rfl
  | unresolved hstrict hmarked hnumeral hletter =>
      rw [read_of_not_numeral hshort hmarked hnumeral, register,
        Register.ofToken?_eq_none hletter, hstrict]
      rfl

/-- Some case applies to every token. -/
theorem Resolves.exists (strict : Bool) (token : Text) :
    ∃ result, Resolves strict token result := by
  by_cases hmarked : Marked token
  · by_cases hbits : Bits token.tail
    · by_cases hle : positional 2 token.tail ≤ 65535
      · exact ⟨_, .binary hmarked hbits hle⟩
      · exact ⟨_, .binaryTooLarge hmarked hbits (Nat.lt_of_not_le hle)⟩
    · exact ⟨_, .notBinary hmarked hbits⟩
  · by_cases hnumeral : ∃ n ≤ 65535, Numeral token n
    · obtain ⟨n, hle, hn⟩ := hnumeral
      exact ⟨_, .decimal hmarked hn hle⟩
    · have hnone : ∀ n ≤ 65535, ¬Numeral token n := fun n hle hn => hnumeral ⟨n, hle, hn⟩
      by_cases hletter : ∃ place, LetterAt token place
      · obtain ⟨place, hplace⟩ := hletter
        exact ⟨_, .letter hmarked hnone hplace⟩
      · have hplaces := not_exists.mp hletter
        cases strict with
        | false => exact ⟨_, .zero rfl hmarked hnone hplaces⟩
        | true => exact ⟨_, .unresolved rfl hmarked hnone hplaces⟩

theorem Resolves.head_of_lenient {fault : LineFault} (h : Resolves false token (.error fault)) :
    token.head? = some 'b' ∨ token.head? = some 'B' := by
  cases h with
  | binaryTooLarge hmarked _ _ => exact hmarked.head
  | notBinary hmarked _ => exact hmarked.head
  | unresolved hstrict _ _ _ => cases hstrict

theorem read_word_or_parse (hshort : ∀ digits, ¬Overlong token digits) (strict : Bool) :
    (∃ n ≤ 65535, read strict token = .ok n) ∨
      ∃ fault, read strict token = .error fault ∧ ∀ line text,
        fault.report line text = .diagnostic ⟨.parse, fault.detail, .source line text⟩ := by
  cases hread : read strict token with
  | ok n => exact .inl ⟨n, read_le hread, rfl⟩
  | error fault =>
      rcases (faulty_of_read hread).kind with hkind | ⟨digits, hlong, -⟩
      · exact .inr ⟨fault, rfl, fun line text => LineFault.report_of_kind? hkind line text⟩
      · exact absurd hlong (hshort digits)

/-- Unless it is a decimal literal of more digits than are converted, a token is resolved to a word
or refused by an error of the parse, as its notation says, and a lenient reading refuses only what
starts with the marker of binary literals. -/
theorem read_eq_iff_resolves (hshort : ∀ digits, ¬Overlong token digits) (strict : Bool) :
    ((∃ n ≤ 65535, read strict token = .ok n) ∨
      ∃ fault, read strict token = .error fault ∧ ∀ line text,
        fault.report line text = .diagnostic ⟨.parse, fault.detail, .source line text⟩) ∧
    (∀ result, read strict token = result ↔ Resolves strict token result) ∧
    ∀ fault, read false token = .error fault →
      token.head? = some 'b' ∨ token.head? = some 'B' := by
  have hiff : ∀ strict result, read strict token = result ↔ Resolves strict token result := by
    intro strict result
    obtain ⟨result', hresolves⟩ := Resolves.exists strict token
    constructor
    · intro hread
      rwa [← hread, hresolves.read_eq hshort]
    · exact fun h => h.read_eq hshort
  refine ⟨read_word_or_parse hshort strict, hiff strict, ?_⟩
  intro fault hfault
  exact Resolves.head_of_lenient ((hiff false _).mp hfault)

theorem resolves_marked_late :
    let token : Text := "bxb1".toList
    (∀ digits, ¬Overlong token digits) ∧ read false token = .error (.notBinary token) ∧
      (token.head? = some 'b' ∨ token.head? = some 'B') ∧
      read true "+0065535".toList = .ok 65535 := by
  intro token
  have hshort : ∀ digits, ¬Overlong token digits := not_overlong_of_length (by decide)
  have hmarked : Marked token := ⟨.inl rfl, 'b', '1', ⟨"bx".toList, [], rfl⟩, .inl rfl, rfl⟩
  have hbits : ¬Bits token.tail := by
    intro h
    exact absurd (h.bit 'x' (by decide)) (by decide)
  have hread : read false token = .error (.notBinary token) :=
    ((read_eq_iff_resolves hshort false).2.1 _).mpr (.notBinary hmarked hbits)
  refine ⟨hshort, hread, (read_eq_iff_resolves hshort false).2.2 _ hread, ?_⟩
  have hsigned : ¬Marked "+0065535".toList := by
    rintro ⟨hhead | hhead, -⟩ <;> cases hhead
  have hnumeral : Numeral "+0065535".toList 65535 :=
    ⟨"0065535".toList, .inr rfl, by decide, List.all_eq_true.mp rfl, by rfl⟩
  refine ((read_eq_iff_resolves (not_overlong_of_length ?_) true).2.1 _).mpr ?_
  · decide
  · exact .decimal hsigned hnumeral (Nat.le_refl 65535)

end Operand

end LetterMachine
