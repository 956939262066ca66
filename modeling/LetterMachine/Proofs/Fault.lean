import LetterMachine.Proofs.Line
import LetterMachine.Proofs.Mnemonic

namespace LetterMachine

namespace Operand

/-- The token is a decimal literal of the given digits, which are more than are converted. A plus
sign may stand before them. -/
structure Overlong (token digits : Text) : Prop where
  spelled : token = digits ∨ token = '+' :: digits
  isDigit : ∀ c ∈ digits, c.isDigit = true
  maxDigits_lt : Text.maxDigits < digits.length

/-- What can be wrong with the token of an operand. -/
inductive Faulty (token : Text) : LineFault → Prop
  | notBinary : Faulty token (.notBinary token)
  | binaryTooLarge : Faulty token (.binaryTooLarge token)
  | unresolved : Faulty token (.unresolved token)
  | overlong {digits : Text} (hlong : Overlong token digits) :
      Faulty token (.longNumeral digits.length)

variable {strict : Bool} {token digits : Text} {fault : LineFault}

theorem Overlong.ne_nil (h : Overlong token digits) : digits ≠ [] := by
  rintro rfl
  exact absurd h.maxDigits_lt (Nat.not_lt_zero _)

theorem unsigned_of_spelled (hspelled : token = digits ∨ token = '+' :: digits)
    (hdigit : ∀ c ∈ digits, c.isDigit = true) :
    (if token.head? = some '+' then token.tail else token) = digits := by
  rcases hspelled with rfl | rfl
  · apply if_neg
    intro hhead
    exact absurd (hdigit '+' (List.mem_of_head? hhead)) (by decide)
  · rfl

theorem spelled_unsigned (token : Text) :
    token = (if token.head? = some '+' then token.tail else token) ∨
      token = '+' :: if token.head? = some '+' then token.tail else token := by
  by_cases hplus : token.head? = some '+'
  · obtain ⟨rest, rfl⟩ := List.head?_eq_some_iff.mp hplus
    exact .inr rfl
  · exact .inl (if_neg hplus).symm

theorem decimal?_eq_error_iff :
    decimal? token = .error fault ↔
      ∃ digits, Overlong token digits ∧ fault = .longNumeral digits.length := by
  constructor
  · intro h
    unfold decimal? at h
    extract_lets digits at h
    split at h
    · cases h
    · rename_i hdigits
      split at h
      · rename_i hlength
        cases h
        refine ⟨digits, ⟨spelled_unsigned token, ?_, hlength⟩, rfl⟩
        · simp only [Bool.or_eq_true, Bool.not_eq_true', not_or, Bool.not_eq_false] at hdigits
          exact List.all_eq_true.mp hdigits.2
      · cases h
  · rintro ⟨digits, hlong, rfl⟩
    have hempty : digits.isEmpty = false := by simpa using hlong.ne_nil
    have hall : digits.all Char.isDigit = true := List.all_eq_true.mpr hlong.isDigit
    have hunsigned := unsigned_of_spelled hlong.spelled hlong.isDigit
    simp only [decimal?, hunsigned, hempty, hall, Bool.not_true, Bool.or_self,
      Bool.false_eq_true, if_false, if_pos hlong.maxDigits_lt]

theorem faulty_of_decimal? (h : decimal? token = .error fault) : Faulty token fault := by
  obtain ⟨digits, hlong, rfl⟩ := decimal?_eq_error_iff.mp h
  exact .overlong hlong

theorem faulty_of_binary (h : binary token = .error fault) : Faulty token fault := by
  simp only [binary] at h
  split at h
  · cases h
    exact .notBinary
  · split at h
    · cases h
    · cases h
      exact .binaryTooLarge

theorem faulty_of_register (h : register strict token = .error fault) : Faulty token fault := by
  unfold register at h
  split at h
  · cases h
  · split at h
    · cases h
      exact .unresolved
    · cases h

theorem faulty_of_read (h : read strict token = .error fault) : Faulty token fault := by
  unfold read at h
  split at h
  · exact faulty_of_binary h
  · rcases bind_eq_error.mp h with h | ⟨value?, -, h⟩
    · exact faulty_of_decimal? h
    · cases value? with
      | some value => cases h
      | none => exact faulty_of_register h

theorem faulty_of_readSource (h : readSource strict token = .error fault) :
    Faulty token fault := by
  rcases bind_eq_error.mp h with h | ⟨value?, -, h⟩
  · exact faulty_of_decimal? h
  · cases value? with
    | some value => cases h
    | none =>
        rcases bind_eq_error.mp h with h | ⟨number, -, h⟩
        · exact faulty_of_register h
        · cases h

theorem Overlong.isBinary (h : Overlong token digits) : isBinary token = false := by
  obtain ⟨c, rest, hdigits⟩ := List.exists_cons_of_ne_nil h.ne_nil
  have hfirst := h.isDigit c (hdigits ▸ List.mem_cons_self)
  rcases h.spelled with rfl | rfl
  · rw [hdigits]
    exact isBinary_of_head (isMarker_of_isDigit hfirst) rest
  · exact isBinary_of_head rfl digits

theorem Overlong.read (h : Overlong token digits) (strict : Bool) :
    read strict token = .error (.longNumeral digits.length) := by
  have hdecimal := decimal?_eq_error_iff.mpr ⟨digits, h, rfl⟩
  simp only [Operand.read, h.isBinary, hdecimal]
  rfl

end Operand

namespace Instruction

/-- What can be wrong with the tokens of a line that should stand for an instruction. -/
inductive Faulty (tokens : List Text) : LineFault → Prop
  | empty (htokens : tokens = []) : Faulty tokens .empty
  | unknownInstruction {head : Text} (hhead : tokens.head? = some head)
      (hunknown : Opcode.ofToken? head = none) : Faulty tokens (.unknownInstruction head)
  | operand {token : Text} {fault : LineFault} (htoken : token ∈ tokens.tail.take 2)
      (hfault : Operand.Faulty token fault) : Faulty tokens fault
  | exponentTooLarge {exponent : Nat} (hexponent : Decoding.exponentLimit ≤ exponent) :
      Faulty tokens (.exponentTooLarge exponent)

end Instruction

namespace Decoding

variable {strict : Bool} {tokens : List Text} {fault : LineFault}

theorem read_zero (strict : Bool) : Operand.read strict ['0'] = .ok 0 :=
  Operand.read_ofNat (Nat.zero_le Register.maxValue) strict

theorem mem_operands {n : Nat} {token : Text} (hn : n = 1 ∨ n = 2)
    (h : tokens[n]? = some token) : token ∈ tokens.tail.take 2 := by
  apply List.mem_iff_getElem?.mpr
  refine ⟨n - 1, ?_⟩
  rw [List.getElem?_take_of_lt (by omega), List.getElem?_tail]
  rcases hn with rfl | rfl
  · exact h
  · exact h

theorem faulty_of_tokenAt {n : Nat} (hn : n = 1 ∨ n = 2)
    (h : Operand.read strict (tokenAt tokens n) = .error fault) :
    Instruction.Faulty tokens fault := by
  unfold tokenAt at h
  cases htoken : tokens[n]? with
  | none =>
      rw [htoken, Option.getD_none, read_zero] at h
      cases h
  | some token =>
      rw [htoken] at h
      exact .operand (mem_operands hn htoken) (Operand.faulty_of_read h)

theorem faulty_of_common {op : Opcode} (h : common strict op tokens = .error fault) :
    Instruction.Faulty tokens fault := by
  rcases bind_eq_error.mp h with h | ⟨dest, -, h⟩
  · exact faulty_of_tokenAt (.inl rfl) h
  · rcases bind_eq_error.mp h with h | ⟨src, -, h⟩
    · exact faulty_of_tokenAt (.inr rfl) h
    · cases h

theorem faulty_of_move (h : move strict tokens = .error fault) :
    Instruction.Faulty tokens fault := by
  rcases bind_eq_error.mp h with h | ⟨dest, -, h⟩
  · exact faulty_of_tokenAt (.inl rfl) h
  · split at h
    · cases h
    · rename_i token htoken
      rcases bind_eq_error.mp h with h | ⟨source, -, h⟩
      · exact .operand (mem_operands (.inr rfl) htoken) (Operand.faulty_of_readSource h)
      · cases source with
        | literal value => cases h
        | register number => cases h

theorem faulty_of_power (h : power strict tokens = .error fault) :
    Instruction.Faulty tokens fault := by
  rcases bind_eq_error.mp h with h | ⟨dest, -, h⟩
  · exact faulty_of_tokenAt (.inl rfl) h
  · rcases bind_eq_error.mp h with h | ⟨exponent, -, h⟩
    · exact faulty_of_tokenAt (.inr rfl) h
    · split at h
      · cases h
      · rename_i hexponent
        cases h
        exact .exponentTooLarge (Nat.le_of_not_lt hexponent)

end Decoding

theorem Instruction.faulty_of_ofTokens {strict : Bool} {tokens : List Text} {fault : LineFault}
    (h : ofTokens strict tokens = .error fault) : Faulty tokens fault := by
  unfold ofTokens at h
  split at h
  · cases h
    exact .empty rfl
  · split at h
    · rename_i head rest hunknown
      cases h
      exact .unknownInstruction rfl hunknown
    · exact Decoding.faulty_of_move h
    · exact Decoding.faulty_of_power h
    · exact Decoding.faulty_of_common h

theorem LineFault.report_of_kind? {fault : LineFault} {kind : Diagnostic.Kind}
    (h : fault.kind? = some kind) (line : Option Int) (text : Option Text) :
    fault.report line text = .diagnostic ⟨kind, fault.detail, .source line text⟩ := by
  cases fault <;> cases h <;> rfl

open Operand

theorem Operand.Faulty.kind {token : Text} {fault : LineFault} (h : Faulty token fault) :
    fault.kind? = some .parse ∨
      ∃ digits, Overlong token digits ∧ fault = .longNumeral digits.length := by
  cases h with
  | notBinary | binaryTooLarge | unresolved => exact .inl rfl
  | overlong hlong => exact .inr ⟨_, hlong, rfl⟩

theorem Instruction.Faulty.kind {tokens : List Text} {fault : LineFault}
    (h : Faulty tokens fault) :
    fault.kind? = some .parse ∨
      ∃ token ∈ tokens.tail.take 2, ∃ digits, Overlong token digits ∧
        fault = .longNumeral digits.length := by
  cases h with
  | empty | unknownInstruction | exponentTooLarge => exact .inl rfl
  | operand htoken hfault =>
      rcases hfault.kind with hkind | hlong
      · exact .inl hkind
      · exact .inr ⟨_, htoken, hlong⟩

namespace Assembly.Draft

variable {flags : AssemblyFlags} {n : Nat} {d d' : Draft}

theorem Lined.kind {tokens : List Text} {fault : LineFault}
    (h : Lined flags n d tokens d' (some fault)) :
    (∃ kind, fault.kind? = some kind ∧ (kind = .parse ∨ kind = .block)) ∨
      ∃ token ∈ tokens.tail.take 2, ∃ digits, Overlong token digits ∧
        fault = .longNumeral digits.length := by
  cases h with
  | endWithoutBlock | duplicate | nested => exact .inl ⟨.block, rfl, .inr rfl⟩
  | undecodable _ hfault =>
      rcases (Instruction.faulty_of_ofTokens hfault).kind with hkind | hlong
      · exact .inl ⟨.parse, hkind, .inl rfl⟩
      · exact .inr hlong

end Assembly.Draft

open Assembly

theorem Instruction.ofTokens_of_overlong {head token digits : Text} {op : Opcode}
    (hop : Opcode.ofToken? head = some op) (hlong : Overlong token digits) (strict : Bool)
    (rest : List Text) :
    ofTokens strict (head :: token :: rest) = .error (.longNumeral digits.length) := by
  have hread : Operand.read strict (Decoding.tokenAt (head :: token :: rest) 1) =
      .error (.longNumeral digits.length) := hlong.read strict
  simp only [ofTokens, hop]
  split
  · rename_i hunknown
    cases hunknown
  · rw [Decoding.move, hread]
    rfl
  · rw [Decoding.power, hread]
    rfl
  · rw [Decoding.common, hread]
    rfl

theorem Operand.Overlong.isToken {token digits : Text} (h : Overlong token digits) :
    IsToken token := by
  have hchar : ∀ c ∈ token, c = '+' ∨ c.isDigit = true := by
    intro c hc
    rcases h.spelled with rfl | rfl
    · exact .inr (h.isDigit c hc)
    · rcases List.mem_cons.mp hc with rfl | hc
      · exact .inl rfl
      · exact .inr (h.isDigit c hc)
  refine ⟨?_, ?_, ?_⟩
  · rcases h.spelled with rfl | rfl
    · exact h.ne_nil
    · exact List.cons_ne_nil _ _
  · intro c hc
    rcases hchar c hc with rfl | hdigit
    · decide
    · exact Text.isBlank_of_isDigit hdigit
  · intro hc
    rcases hchar ';' hc with heq | hdigit
    · cases heq
    · cases hdigit

theorem assemble_of_overlong {token digits : Text} (hlong : Overlong token digits)
    (flags : AssemblyFlags) (op : Opcode) :
    (assemble flags ([' '].intercalate [op.mnemonic, token])).result =
      .error ⟨.longNumeral digits.length, 0, [' '].intercalate [op.mnemonic, token]⟩ := by
  have htokens : ∀ w ∈ [op.mnemonic, token], IsToken w := by
    simpa using ⟨op.isToken_mnemonic, hlong.isToken⟩
  have hline := isLine_intercalate (List.cons_ne_nil _ _) htokens
  have hplain : IsPlain [op.mnemonic, token] := ⟨op.mnemonic, rfl, op.isDirective_mnemonic⟩
  have hfault := Instruction.ofTokens_of_overlong op.ofToken?_mnemonic hlong flags.strict []
  apply assemble_eq_error_iff.mpr
  refine ⟨Draft.start flags ([' '].intercalate [op.mnemonic, token]), _, ?_, .inl rfl⟩
  rw [Text.lines_of_not_mem hline.nonempty hline.unbroken, hline.dropReturn, Draft.lines,
    tokensOfLine_intercalate htokens, (Draft.Lined.undecodable hplain hfault).line_eq]

/-- Assembling gives a program or a diagnostic of the parse or of a block, unless an operand of the
faulty line is too long a numeral. -/
theorem assemble_outcome (flags : AssemblyFlags) (source : Text) :
    (∃ p, (assemble flags source).result = .ok p) ∨
      (∃ f kind, (assemble flags source).result = .error f ∧
        (kind = .parse ∨ kind = .block) ∧
        f.report = .diagnostic ⟨kind, f.fault.detail, .source (some f.line) (some f.text)⟩) ∨
      ∃ f token digits, (assemble flags source).result = .error f ∧
        source.lines[f.line]? = some f.text ∧
        token ∈ (tokensOfLine f.text).tail.take 2 ∧ Overlong token digits ∧
        f.report = .mishap (.longNumeral digits.length) := by
  cases hresult : (assemble flags source).result with
  | ok p => exact .inl ⟨p, rfl⟩
  | error f =>
      right
      obtain ⟨d, fault, hlines, rfl | ⟨rfl, b, hopened, rfl⟩⟩ := assemble_eq_error_iff.mp hresult
      · obtain ⟨k, hk, htext, d₀, hlined⟩ := Draft.lined_of_fault hlines
        rcases hlined.kind with ⟨kind, hkind, hfamily⟩ | ⟨token, htoken, digits, hlong, hfault⟩
        · exact .inl ⟨f, kind, rfl, hfamily, LineFault.report_of_kind? hkind _ _⟩
        · right
          refine ⟨f, token, digits, rfl, ?_, htoken, hlong, ?_⟩
          · rwa [hk, Nat.zero_add]
          · rw [AssemblyFault.report, hfault]
            rfl
      · -- the block that is open at the end
        exact .inl ⟨_, .block, rfl, .inr rfl, rfl⟩

theorem assemble_inc_overlong :
    ∃ f, (assemble {} ("INC ".toList ++ List.replicate 4301 '1')).result = .error f ∧
      f.report = .mishap (.longNumeral 4301) := by
  have hlong : Overlong (List.replicate 4301 '1') (List.replicate 4301 '1') := by
    refine ⟨.inl rfl, ?_, ?_⟩
    · intro c hc
      rw [List.eq_of_mem_replicate hc]
      rfl
    · rw [List.length_replicate]
      decide
  have hresult := assemble_of_overlong hlong {} .inc
  rw [List.intercalate_cons_cons, List.intercalate_singleton, List.length_replicate] at hresult
  exact ⟨_, hresult, rfl⟩

end LetterMachine
