import LetterMachine.Decoding
import LetterMachine.Proofs.Mnemonic
import LetterMachine.Proofs.Operand

namespace LetterMachine

namespace Instruction

/-- The operands that the operation uses are words, the others are zero, and an exponent has eight
bits. -/
structure Canonical (i : Instruction) : Prop where
  used : ∀ n ∈ i.operands, 0 ≤ n ∧ n ≤ Register.maxValue
  dest_eq_zero : i.opcode.arity < 1 → i.dest = 0
  src_eq_zero : i.opcode.arity < 2 → i.src = 0
  exponent_lt : i.opcode = .pow → i.src < Decoding.exponentLimit

theorem canonical_halt : halt.Canonical where
  used n hn := by cases hn
  dest_eq_zero _ := rfl
  src_eq_zero _ := rfl
  exponent_lt h := by cases h

theorem operands_of_arity_zero {i : Instruction} (h : i.opcode.arity = 0) : i.operands = [] := by
  rw [operands, h]
  rfl

theorem operands_of_arity_one {i : Instruction} (h : i.opcode.arity = 1) :
    i.operands = [i.dest] := by
  rw [operands, h]
  rfl

theorem operands_of_arity_two {i : Instruction} (h : i.opcode.arity = 2) :
    i.operands = [i.dest, i.src] := by
  rw [operands, h]
  rfl

theorem arity_cases (op : Opcode) : op.arity = 0 ∨ op.arity = 1 ∨ op.arity = 2 := by
  have hle := op.arity_le_two
  omega

theorem Canonical.dest_mem {i : Instruction} (hi : i.Canonical) :
    0 ≤ i.dest ∧ i.dest ≤ Register.maxValue := by
  rcases arity_cases i.opcode with h | h | h
  · rw [hi.dest_eq_zero (by omega)]
    exact ⟨Int.le_refl 0, by decide⟩
  · exact hi.used i.dest (by simp [operands_of_arity_one h])
  · exact hi.used i.dest (by simp [operands_of_arity_two h])

theorem Canonical.src_mem {i : Instruction} (hi : i.Canonical) :
    0 ≤ i.src ∧ i.src ≤ Register.maxValue := by
  rcases arity_cases i.opcode with h | h | h
  · rw [hi.src_eq_zero (by omega)]
    exact ⟨Int.le_refl 0, by decide⟩
  · rw [hi.src_eq_zero (by omega)]
    exact ⟨Int.le_refl 0, by decide⟩
  · exact hi.used i.src (by simp [operands_of_arity_two h])

theorem canonical_mk {op : Opcode} {dest src : Nat} (hdest : dest ≤ Register.maxValue)
    (hsrc : src ≤ Register.maxValue) (hdest_zero : op.arity < 1 → dest = 0)
    (hsrc_zero : op.arity < 2 → src = 0) (hexponent : op = .pow → src < Decoding.exponentLimit) :
    (⟨op, dest, src⟩ : Instruction).Canonical where
  used n hn := by
    have hpair : n ∈ [(dest : Int), (src : Int)] := List.mem_of_mem_take hn
    simp only [List.mem_cons, List.not_mem_nil, or_false] at hpair
    rcases hpair with rfl | rfl
    · omega
    · omega
  dest_eq_zero h := congrArg Int.ofNat (hdest_zero h)
  src_eq_zero h := congrArg Int.ofNat (hsrc_zero h)
  exponent_lt h := Int.ofNat_lt.mpr (hexponent h)

theorem canonical_pair {op : Opcode} {dest src : Nat} (harity : op.arity = 2)
    (hdest : dest ≤ Register.maxValue) (hsrc : src ≤ Register.maxValue)
    (hexponent : op = .pow → src < Decoding.exponentLimit) :
    (⟨op, dest, src⟩ : Instruction).Canonical := by
  apply canonical_mk hdest hsrc
  · omega
  · omega
  · exact hexponent

end Instruction

namespace Decoding

variable {strict : Bool} {tokens : List Text} {i : Instruction}

theorem canonical_common {op : Opcode} (hop : op ≠ .pow) (h : common strict op tokens = .ok i) :
    i.Canonical := by
  obtain ⟨dest, hdest, h⟩ := bind_eq_ok.mp h
  obtain ⟨src, hsrc, h⟩ := bind_eq_ok.mp h
  cases h
  have hdest_cast : (if op.arity < 1 then 0 else (dest : Int)) =
      (if op.arity < 1 then 0 else dest : Nat) := by
    split <;> rfl
  have hsrc_cast : (if op.arity < 2 then 0 else (src : Int)) =
      (if op.arity < 2 then 0 else src : Nat) := by
    split <;> rfl
  rw [hdest_cast, hsrc_cast]
  apply Instruction.canonical_mk
  · split
    · exact Nat.zero_le _
    · exact Operand.read_le hdest
  · split
    · exact Nat.zero_le _
    · exact Operand.read_le hsrc
  · intro h
    exact if_pos h
  · intro h
    exact if_pos h
  · intro h
    exact absurd h hop

theorem canonical_move (h : move strict tokens = .ok i) : i.Canonical := by
  obtain ⟨dest, hdest, h⟩ := bind_eq_ok.mp h
  have hword := Operand.read_le hdest
  split at h
  · cases h
    exact Instruction.canonical_pair rfl hword (Nat.zero_le _) nofun
  · obtain ⟨source, hsource, h⟩ := bind_eq_ok.mp h
    obtain ⟨n, hn, rfl | rfl⟩ := Operand.readSource_le hsource
    · cases h
      exact Instruction.canonical_pair rfl hword hn nofun
    · cases h
      exact Instruction.canonical_pair rfl hword hn nofun

theorem canonical_power (h : power strict tokens = .ok i) : i.Canonical := by
  obtain ⟨dest, hdest, h⟩ := bind_eq_ok.mp h
  obtain ⟨exponent, hexponent, h⟩ := bind_eq_ok.mp h
  split at h
  · rename_i hlt
    cases h
    exact Instruction.canonical_pair rfl (Operand.read_le hdest) (Operand.read_le hexponent)
      fun _ => hlt
  · cases h

end Decoding

/-- Decoding makes canonical instructions. -/
theorem Instruction.canonical_ofTokens {strict : Bool} {tokens : List Text} {i : Instruction}
    (h : ofTokens strict tokens = .ok i) : i.Canonical := by
  unfold ofTokens at h
  split at h
  · cases h
  · split at h
    · cases h
    · exact Decoding.canonical_move h
    · exact Decoding.canonical_power h
    · rename_i op _ hpow _
      exact Decoding.canonical_common hpow h

theorem Text.ofInt_of_nonneg {n : Int} (hn : 0 ≤ n) : Text.ofInt n = Text.ofNat n.toNat := by
  obtain ⟨k, rfl⟩ := Int.eq_ofNat_of_zero_le hn
  rfl

theorem Text.tooManyDigits_of_word {n : Int} (hlow : 0 ≤ n) (hhigh : n ≤ Register.maxValue) :
    tooManyDigits n = false := by
  apply decide_eq_false
  apply Nat.not_lt.mpr
  apply Operand.length_ofNat_le
  omega

namespace Instruction

variable {i : Instruction}

theorem Canonical.any_tooManyDigits (hi : i.Canonical) :
    i.operands.any Text.tooManyDigits = false := by
  apply List.any_eq_false.mpr
  intro n hn
  have hword := hi.used n hn
  simp [Text.tooManyDigits_of_word hword.1 hword.2]

theorem Canonical.read_dest (hi : i.Canonical) (strict : Bool) :
    Operand.read strict (Decoding.tokenAt i.tokens 1) = .ok i.dest.toNat := by
  have hle : i.dest.toNat ≤ Register.maxValue := by
    have hdest := hi.dest_mem
    omega
  have htoken : Decoding.tokenAt i.tokens 1 = Text.ofNat i.dest.toNat := by
    rcases arity_cases i.opcode with h | h | h
    · rw [tokens, operands_of_arity_zero h, hi.dest_eq_zero (by omega)]
      rfl
    · rw [tokens, operands_of_arity_one h]
      exact Text.ofInt_of_nonneg hi.dest_mem.1
    · rw [tokens, operands_of_arity_two h]
      exact Text.ofInt_of_nonneg hi.dest_mem.1
  rw [htoken, Operand.read_ofNat hle]

theorem Canonical.read_src (hi : i.Canonical) (strict : Bool) :
    Operand.read strict (Decoding.tokenAt i.tokens 2) = .ok i.src.toNat := by
  have hle : i.src.toNat ≤ Register.maxValue := by
    have hsrc := hi.src_mem
    omega
  have htoken : Decoding.tokenAt i.tokens 2 = Text.ofNat i.src.toNat := by
    rcases arity_cases i.opcode with h | h | h
    · rw [tokens, operands_of_arity_zero h, hi.src_eq_zero (by omega)]
      rfl
    · rw [tokens, operands_of_arity_one h, hi.src_eq_zero (by omega)]
      rfl
    · rw [tokens, operands_of_arity_two h]
      exact Text.ofInt_of_nonneg hi.src_mem.1
  rw [htoken, Operand.read_ofNat hle]

theorem Canonical.common_tokens (hi : i.Canonical) (strict : Bool) :
    Decoding.common strict i.opcode i.tokens = .ok i := by
  simp only [Decoding.common, hi.read_dest, hi.read_src]
  change Except.ok (⟨i.opcode, if i.opcode.arity < 1 then 0 else (i.dest.toNat : Int),
    if i.opcode.arity < 2 then 0 else (i.src.toNat : Int)⟩ : Instruction) = _
  have hdest : (if i.opcode.arity < 1 then 0 else (i.dest.toNat : Int)) = i.dest := by
    split
    · rename_i h
      exact (hi.dest_eq_zero h).symm
    · exact Int.toNat_of_nonneg hi.dest_mem.1
  have hsrc : (if i.opcode.arity < 2 then 0 else (i.src.toNat : Int)) = i.src := by
    split
    · rename_i h
      exact (hi.src_eq_zero h).symm
    · exact Int.toNat_of_nonneg hi.src_mem.1
  rw [hdest, hsrc]

theorem Canonical.move_tokens (hi : i.Canonical) (hop : i.opcode = .mov) (strict : Bool) :
    Decoding.move strict i.tokens = .ok i := by
  have harity : i.opcode.arity = 2 := by rw [hop]; rfl
  have hsrc : i.tokens[2]? = some (Text.ofNat i.src.toNat) := by
    rw [tokens, operands_of_arity_two harity]
    exact congrArg some (Text.ofInt_of_nonneg hi.src_mem.1)
  have hle : i.src.toNat ≤ Register.maxValue := by
    have hmem := hi.src_mem
    omega
  simp only [Decoding.move, hi.read_dest, hsrc, Operand.readSource_ofNat hle]
  change Except.ok (⟨.mov, (i.dest.toNat : Int), (i.src.toNat : Int)⟩ : Instruction) = _
  rw [Int.toNat_of_nonneg hi.dest_mem.1, Int.toNat_of_nonneg hi.src_mem.1, ← hop]

theorem Canonical.power_tokens (hi : i.Canonical) (hop : i.opcode = .pow) (strict : Bool) :
    Decoding.power strict i.tokens = .ok i := by
  have hlt : i.src.toNat < Decoding.exponentLimit := by
    have hexponent := hi.exponent_lt hop
    have hmem := hi.src_mem
    omega
  simp only [Decoding.power, hi.read_dest, hi.read_src]
  change (if i.src.toNat < Decoding.exponentLimit then
    Except.ok (⟨.pow, (i.dest.toNat : Int), (i.src.toNat : Int)⟩ : Instruction) else _) = _
  rw [if_pos hlt, Int.toNat_of_nonneg hi.dest_mem.1, Int.toNat_of_nonneg hi.src_mem.1, ← hop]

theorem Canonical.ofTokens_tokens (hi : i.Canonical) (strict : Bool) :
    ofTokens strict i.tokens = .ok i := by
  have hhead : i.tokens = i.opcode.mnemonic :: i.operands.map Text.ofInt := rfl
  unfold ofTokens
  rw [hhead]
  simp only [Opcode.ofToken?_mnemonic]
  rw [← hhead]
  split
  · contradiction
  · rename_i h
    exact hi.move_tokens (Option.some.inj h) strict
  · rename_i h
    exact hi.power_tokens (Option.some.inj h) strict
  · rename_i op _ _ h
    cases Option.some.inj h
    exact hi.common_tokens strict

theorem Canonical.isToken_of_mem_tokens (hi : i.Canonical) {w : Text} (hw : w ∈ i.tokens) :
    IsToken w := by
  rcases List.mem_cons.mp hw with rfl | hw
  · exact Opcode.isToken_mnemonic i.opcode
  · obtain ⟨n, hn, rfl⟩ := List.mem_map.mp hw
    rw [Text.ofInt_of_nonneg (hi.used n hn).1]
    exact Text.isToken_ofNat n.toNat

theorem Canonical.tokensOfLine_line (hi : i.Canonical) : tokensOfLine i.line = i.tokens :=
  tokensOfLine_intercalate fun _ hw => hi.isToken_of_mem_tokens hw

theorem Canonical.isLine_line (hi : i.Canonical) : Text.IsLine i.line :=
  isLine_intercalate (List.cons_ne_nil _ _) fun _ hw => hi.isToken_of_mem_tokens hw

theorem Canonical.words_line (hi : i.Canonical) : Text.words i.line = i.tokens :=
  Text.words_intercalate fun _ hw =>
    ⟨(hi.isToken_of_mem_tokens hw).nonempty, (hi.isToken_of_mem_tokens hw).solid⟩

/-- Whatever is decoded is canonical, and an instruction is decoded from the words of its own line
exactly if it is canonical. The operands of such an instruction are short enough to be written. -/
theorem canonical_iff_read_back :
    (∀ strict tokens i, ofTokens strict tokens = .ok i → i.Canonical) ∧
      ∀ strict i, (ofTokens strict (Text.words i.line) = .ok i ↔ i.Canonical) ∧
        (i.Canonical → i.operands.any Text.tooManyDigits = false) := by
  refine ⟨fun _ _ _ h => canonical_ofTokens h, ?_⟩
  intro strict i
  refine ⟨⟨canonical_ofTokens, ?_⟩, Canonical.any_tooManyDigits⟩
  intro hi
  rw [hi.words_line]
  exact hi.ofTokens_tokens strict

theorem canonical_iff_read_back_exponent :
    let i : Instruction := ⟨.pow, 25, 255⟩
    let beyond : Instruction := ⟨.pow, 25, 256⟩
    ofTokens true ["pow".toList, "z".toList, "b11111111".toList] = .ok i ∧ i.Canonical ∧
      ofTokens true (Text.words i.line) = .ok i ∧ i.operands.any Text.tooManyDigits = false ∧
      ¬beyond.Canonical ∧ ofTokens false (Text.words beyond.line) ≠ .ok beyond := by
  intro i beyond
  have hdecoded : ofTokens true ["pow".toList, "z".toList, "b11111111".toList] = .ok i := by rfl
  have hi := canonical_iff_read_back.1 _ _ _ hdecoded
  obtain ⟨hread, hwritten⟩ := canonical_iff_read_back.2 true i
  have hbeyond : ¬beyond.Canonical := fun h => absurd (h.exponent_lt rfl) (by decide)
  refine ⟨hdecoded, hi, hread.mpr hi, hwritten hi, hbeyond, ?_⟩
  exact fun h => hbeyond ((canonical_iff_read_back.2 false beyond).1.mp h)

end Instruction

end LetterMachine
