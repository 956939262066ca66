import LetterMachine.Proofs.Fault

/-!
Strict reading of operands. It makes the same of a source text as a lenient reading, or it refuses
an operand that is neither a number nor starts with a letter.
-/

namespace LetterMachine

namespace Register

theorem isAlpha_iff {c : Char} :
    c.isAlpha = true ↔ 'a' ≤ c ∧ c ≤ 'z' ∨ 'A' ≤ c ∧ c ≤ 'Z' := by
  have hupper : c.isUpper = true ↔ 'A' ≤ c ∧ c ≤ 'Z' := decide_eq_true_iff
  have hlower : c.isLower = true ↔ 'a' ≤ c ∧ c ≤ 'z' := by
    refine Bool.and_eq_true_iff.trans ?_
    exact and_congr decide_eq_true_iff decide_eq_true_iff
  refine Bool.or_eq_true_iff.trans ?_
  rw [hupper, hlower, or_comm]

theorem ofLetter?_eq_none_iff {c : Char} : ofLetter? c = none ↔ c.isAlpha = false := by
  rw [← Bool.not_eq_true, isAlpha_iff, not_or]
  unfold ofLetter?
  split
  · simp [*]
  · split
    · simp [*]
    · simp only [*, not_false_eq_true, and_self]

theorem ofToken?_eq_none_iff {token : Text} :
    ofToken? token = none ↔ ∀ c, token.head? = some c → c.isAlpha = false := by
  rcases token with _ | ⟨c, token⟩
  · simp [ofToken?]
  · simp [ofToken?, ofLetter?_eq_none_iff]

end Register

namespace Operand

/-- The token is a decimal literal of a word, with a plus sign in front of the digits or without. -/
structure Decimal (token : Text) (n : Nat) : Prop where
  spelled : ∃ digits, (token = digits ∨ token = '+' :: digits) ∧ digits ≠ [] ∧
    (∀ c ∈ digits, c.isDigit = true) ∧ digits.length ≤ Text.maxDigits ∧
    Nat.ofDigitChars 10 digits 0 = n
  le : n ≤ Register.maxValue

/-- The token is no number, and it starts with no letter. A binary literal starts with one. -/
structure Vague (token : Text) : Prop where
  number : ∀ n, ¬Decimal token n
  letter : ∀ c, token.head? = some c → c.isAlpha = false

theorem decimal?_eq_some_iff {token : Text} {n : Nat} :
    decimal? token = .ok (some n) ↔ Decimal token n := by
  constructor
  · intro h
    refine ⟨?_, decimal?_le h⟩
    unfold decimal? at h
    extract_lets digits at h
    split at h
    · cases h
    · rename_i hdigits
      split at h
      · cases h
      · rename_i hlength
        simp only [Bool.or_eq_true, Bool.not_eq_true', not_or, Bool.not_eq_false,
          Bool.not_eq_true, List.isEmpty_eq_false_iff] at hdigits
        split at h
        · rw [Except.ok.injEq, Option.some.injEq] at h
          exact ⟨digits, spelled_unsigned token, hdigits.1, List.all_eq_true.mp hdigits.2,
            Nat.le_of_not_lt hlength, h⟩
        · cases h
  · rintro ⟨⟨digits, hspelled, hne, hdigit, hlength, rfl⟩, hle⟩
    have hunsigned := unsigned_of_spelled hspelled hdigit
    have hempty : digits.isEmpty = false := by simpa using hne
    have hall : digits.all Char.isDigit = true := List.all_eq_true.mpr hdigit
    simp only [decimal?, hunsigned, hempty, hall, Bool.not_true, Bool.or_self,
      Bool.false_eq_true, if_false, if_neg (Nat.not_lt.mpr hlength), if_pos hle]

theorem Vague.ne_zero {token : Text} (h : Vague token) : token ≠ ['0'] := by
  rintro rfl
  exact h.number 0 (decimal?_eq_some_iff.mp rfl)

/-- What a strict reading of some tokens makes, where a lenient one makes `x`: the same, and then
none of the tokens is vague if there is a result, or a refusal of one that is. -/
def Narrowed {α : Type} (ts : List Text) (x y : Except LineFault α) : Prop :=
  (y = x ∧ ∀ a, x = .ok a → ∀ token ∈ ts, ¬Vague token) ∨
    ∃ token ∈ ts, Vague token ∧ y = .error (.unresolved token)

namespace Narrowed

variable {α β : Type} {ts ts' : List Text} {x y : Except LineFault α}

theorem of_error (e : LineFault) : Narrowed ts (.error e : Except LineFault α) (.error e) :=
  .inl ⟨rfl, nofun⟩

theorem refl (x : Except LineFault α) : Narrowed [] x x :=
  .inl ⟨rfl, fun _ _ _ h => absurd h List.not_mem_nil⟩

theorem of_not_vague {token : Text} (h : ∀ a, x = .ok a → ¬Vague token) :
    Narrowed [token] x x := by
  refine .inl ⟨rfl, ?_⟩
  intro a ha other hother
  rw [List.mem_singleton.mp hother]
  exact h a ha

theorem bind {f g : α → Except LineFault β} (h : Narrowed ts x y)
    (hf : ∀ a, Narrowed ts' (f a) (g a)) : Narrowed (ts ++ ts') (x >>= f) (y >>= g) := by
  rcases h with ⟨rfl, hclear⟩ | ⟨token, htoken, hvague, rfl⟩
  · cases y with
    | error e => exact of_error e
    | ok a =>
        rcases hf a with ⟨heq, hclear'⟩ | ⟨token, htoken, hvague, heq⟩
        · refine .inl ⟨heq, ?_⟩
          intro b hb token htoken
          rcases List.mem_append.mp htoken with htoken | htoken
          · exact hclear a rfl token htoken
          · exact hclear' b hb token htoken
        · exact .inr ⟨token, List.mem_append_right ts htoken, hvague, heq⟩
  · exact .inr ⟨token, List.mem_append_left ts' htoken, hvague, rfl⟩

theorem of_vague_iff (h : Narrowed ts x y)
    (hts : ∀ token, Vague token → (token ∈ ts ↔ token ∈ ts')) : Narrowed ts' x y := by
  rcases h with ⟨heq, hclear⟩ | ⟨token, htoken, hvague, heq⟩
  · refine .inl ⟨heq, ?_⟩
    intro a ha token htoken hvague
    exact hclear a ha token ((hts token hvague).mpr htoken) hvague
  · exact .inr ⟨token, (hts token hvague).mp htoken, hvague, heq⟩

end Narrowed

theorem narrowed_register {token : Text} (hdecimal : decimal? token = .ok none) :
    Narrowed [token] (register false token) (register true token) := by
  unfold register
  cases hletter : Register.ofToken? token with
  | some r =>
      refine .of_not_vague fun _ _ hvague => ?_
      rw [Register.ofToken?_eq_none_iff.mpr hvague.letter] at hletter
      cases hletter
  | none =>
      have hvague : Vague token := by
        refine ⟨?_, Register.ofToken?_eq_none_iff.mp hletter⟩
        intro n hn
        rw [decimal?_eq_some_iff.mpr hn] at hdecimal
        cases hdecimal
      exact .inr ⟨token, List.mem_singleton_self token, hvague, rfl⟩

theorem narrowed_decimal {α : Type} (token : Text) {f g : Option Nat → Except LineFault α}
    (hsome : ∀ n, f (some n) = g (some n))
    (hnone : decimal? token = .ok none → Narrowed [token] (f none) (g none)) :
    Narrowed [token] (decimal? token >>= f) (decimal? token >>= g) := by
  cases hdecimal : decimal? token with
  | error e => exact .of_error e
  | ok value? =>
      cases value? with
      | none => exact hnone hdecimal
      | some n =>
          change Narrowed [token] (f (some n)) (g (some n))
          rw [hsome n]
          exact .of_not_vague fun _ _ hvague => hvague.number n (decimal?_eq_some_iff.mp hdecimal)

theorem not_vague_of_isBinary {token : Text} (h : isBinary token = true) : ¬Vague token := by
  intro hvague
  rcases token with _ | ⟨c, token⟩
  · cases h
  · have hletter := hvague.letter c rfl
    simp only [isBinary, List.head?_cons, Option.any_some, Bool.and_eq_true, isMarker,
      Bool.or_eq_true, beq_iff_eq] at h
    rcases h.1 with rfl | rfl <;> cases hletter

theorem narrowed_read (token : Text) :
    Narrowed [token] (read false token) (read true token) := by
  unfold read
  cases hbinary : isBinary token with
  | true => exact .of_not_vague fun _ _ => not_vague_of_isBinary hbinary
  | false => exact narrowed_decimal token (fun _ => rfl) narrowed_register

theorem narrowed_readSource (token : Text) :
    Narrowed [token] (readSource false token) (readSource true token) := by
  refine narrowed_decimal token (fun _ => rfl) fun hdecimal => ?_
  exact (narrowed_register hdecimal).bind fun number => .refl _

end Operand

open Operand

namespace Decoding

theorem mem_operands_iff {token : Text} (h : Vague token) (tokens : List Text) :
    token ∈ [tokenAt tokens 1, tokenAt tokens 2] ↔ token ∈ tokens.tail.take 2 := by
  rcases tokens with _ | ⟨head, _ | ⟨dest, _ | ⟨src, rest⟩⟩⟩ <;> simp [tokenAt, h.ne_zero]

variable (tokens : List Text)

theorem narrowed_common (op : Opcode) :
    Narrowed [tokenAt tokens 1, tokenAt tokens 2] (common false op tokens)
      (common true op tokens) :=
  (narrowed_read _).bind fun _ => (narrowed_read _).bind fun _ => .refl _

theorem narrowed_power :
    Narrowed [tokenAt tokens 1, tokenAt tokens 2] (power false tokens) (power true tokens) :=
  (narrowed_read _).bind fun _ => (narrowed_read _).bind fun _ => .refl _

theorem narrowed_move :
    Narrowed [tokenAt tokens 1, tokenAt tokens 2] (move false tokens) (move true tokens) := by
  refine (narrowed_read _).bind fun dest => ?_
  unfold tokenAt
  cases tokens[2]? with
  | none =>
      refine (Narrowed.refl _).of_vague_iff fun token hvague => ?_
      simp [hvague.ne_zero]
  | some token =>
      exact (narrowed_readSource token).bind fun source => .refl _

end Decoding

theorem Instruction.narrowed_ofTokens (tokens : List Text) :
    Narrowed (tokens.tail.take 2) (ofTokens false tokens) (ofTokens true tokens) := by
  rcases tokens with _ | ⟨head, rest⟩
  · exact .of_error .empty
  · cases hop : Opcode.ofToken? head with
    | none =>
        simp only [ofTokens, hop]
        exact .of_error _
    | some op =>
        have hboth : Narrowed [Decoding.tokenAt (head :: rest) 1, Decoding.tokenAt (head :: rest) 2]
            (ofTokens false (head :: rest)) (ofTokens true (head :: rest)) := by
          simp only [ofTokens, hop]
          split
          · exact .of_error _
          · exact Decoding.narrowed_move _
          · exact Decoding.narrowed_power _
          · exact Decoding.narrowed_common _ _
        exact hboth.of_vague_iff fun token hvague => Decoding.mem_operands_iff hvague _

namespace Assembly

/-- The line stands for an instruction with an operand that is vague. -/
def HasVagueOperand (tokens : List Text) : Prop :=
  IsPlain tokens ∧ ∃ token ∈ tokens.tail.take 2, Vague token

namespace Draft

variable (verbose : Bool)

theorem line_strict (n : Nat) (d : Draft) (tokens : List Text) :
    (d.line ⟨verbose, true⟩ n tokens = d.line ⟨verbose, false⟩ n tokens ∧
        ((d.line ⟨verbose, false⟩ n tokens).2 = none → ¬HasVagueOperand tokens)) ∨
      HasVagueOperand tokens ∧ ∃ token, Vague token ∧
        d.line ⟨verbose, true⟩ n tokens = (d, some (.unresolved token)) := by
  obtain rfl | hend | ⟨directive, hopens⟩ | hplain := line_kinds tokens
  · refine .inl ⟨rfl, fun _ h => ?_⟩
    obtain ⟨head, hhead, -⟩ := h.1
    cases hhead
  · refine .inl ⟨?_, fun _ h => h.1.not_isEnd hend⟩
    rw [line_of_isEnd hend, line_of_isEnd hend]
    rfl
  · refine .inl ⟨?_, fun _ h => h.1.not_opens directive hopens⟩
    rw [line_of_opens hopens, line_of_opens hopens]
  · rw [line_of_isPlain hplain, line_of_isPlain hplain]
    rcases Instruction.narrowed_ofTokens tokens with ⟨heq, hclear⟩ | ⟨token, htoken, hvague, heq⟩
    · left
      dsimp only
      rw [heq]
      refine ⟨rfl, ?_⟩
      rintro hnone ⟨-, token, htoken, hvague⟩
      cases hdecoded : Instruction.ofTokens false tokens with
      | ok i => exact hclear i hdecoded token htoken hvague
      | error fault =>
          rw [hdecoded] at hnone
          cases hnone
    · right
      dsimp only
      rw [heq]
      exact ⟨⟨hplain, token, htoken, hvague⟩, token, hvague, rfl⟩

theorem le_of_fault {flags : AssemblyFlags} {n : Nat} {ls : List Text} {d : Draft}
    {f : AssemblyFault} (h : (Draft.lines flags n ls d).2 = some f) : n ≤ f.line := by
  obtain ⟨front, back, -, hn, -⟩ := exists_of_fault (Prod.ext rfl h)
  omega

/-- Lines are read strictly as they are read leniently, up to the first vague operand. -/
theorem lines_strict (n : Nat) (ls : List Text) (d : Draft) :
    (Draft.lines ⟨verbose, true⟩ n ls d = Draft.lines ⟨verbose, false⟩ n ls d ∧
        ((Draft.lines ⟨verbose, false⟩ n ls d).2 = none →
          ∀ line ∈ ls, ¬HasVagueOperand (tokensOfLine line))) ∨
      ∃ d' g token, Draft.lines ⟨verbose, true⟩ n ls d = (d', some g) ∧
        g.fault = .unresolved token ∧ Vague token ∧
        (∃ line ∈ ls, HasVagueOperand (tokensOfLine line)) ∧
        ∀ f, (Draft.lines ⟨verbose, false⟩ n ls d).2 = some f → g.line ≤ f.line := by
  induction ls generalizing n d with
  | nil => exact .inl ⟨rfl, fun _ line hline => absurd hline List.not_mem_nil⟩
  | cons text ls ih =>
      rcases line_strict verbose n d (tokensOfLine text) with
        ⟨heq, hclear⟩ | ⟨hline, token, hvague, heq⟩
      · simp only [Draft.lines, heq]
        rcases hlenient : d.line ⟨verbose, false⟩ n (tokensOfLine text) with ⟨d₁, _ | fault⟩
        · dsimp only
          rw [hlenient] at hclear
          rcases ih (n + 1) d₁ with ⟨hlines, hnone⟩ | ⟨d', g, token, hlines, hg, hvague, hsome, hle⟩
          · refine .inl ⟨hlines, fun h => ?_⟩
            exact List.forall_mem_cons.mpr ⟨hclear rfl, hnone h⟩
          · refine .inr ⟨d', g, token, hlines, hg, hvague, ?_, hle⟩
            obtain ⟨line, hmem, hline⟩ := hsome
            exact ⟨line, List.mem_cons_of_mem text hmem, hline⟩
        · refine .inl ⟨rfl, fun hnone => ?_⟩
          cases hnone
      · refine .inr ⟨d, ⟨.unresolved token, n, text⟩, token, ?_, rfl, hvague, ?_, ?_⟩
        · rw [Draft.lines, heq]
        · exact ⟨text, List.mem_cons_self, hline⟩
        · exact fun f hf => le_of_fault hf

end Draft

end Assembly

open Assembly

theorem assemble_eq_of_lines {verbose : Bool} {source : Text}
    (h : Draft.lines ⟨verbose, true⟩ 0 source.lines (Draft.start ⟨verbose, false⟩ source) =
      Draft.lines ⟨verbose, false⟩ 0 source.lines (Draft.start ⟨verbose, false⟩ source)) :
    assemble ⟨verbose, true⟩ source = assemble ⟨verbose, false⟩ source := by
  have h' : Draft.lines ⟨verbose, true⟩ 0 source.lines (Draft.start ⟨verbose, true⟩ source) =
      Draft.lines ⟨verbose, false⟩ 0 source.lines (Draft.start ⟨verbose, false⟩ source) := h
  unfold Draft.start at h'
  unfold assemble
  dsimp only
  rw [h']

/-- What assembles with operands read strictly assembles to the same when they are read leniently.
What fails in the lenient reading fails in the strict one, and no later, unless nothing but a block
without an end is wrong with it. And what assembles in the lenient reading alone has a vague
operand. -/
theorem assemble_strict (verbose : Bool) (source : Text) :
    (∀ p, (assemble ⟨verbose, true⟩ source).result = .ok p →
      assemble ⟨verbose, false⟩ source = assemble ⟨verbose, true⟩ source) ∧
    (∀ f, (assemble ⟨verbose, false⟩ source).result = .error f →
      ∃ g, (assemble ⟨verbose, true⟩ source).result = .error g ∧
        (g = f ∨ ∃ token, g.fault = .unresolved token ∧ Vague token ∧
          g.report = .diagnostic ⟨.parse, "Cannot resolve operand: ".toList ++ token,
            .source (some g.line) (some g.text)⟩) ∧
        (g.line ≤ f.line ∨ ∃ directive, f.fault = .unterminated directive)) ∧
    ∀ p, (assemble ⟨verbose, false⟩ source).result = .ok p →
      ((∃ g, (assemble ⟨verbose, true⟩ source).result = .error g) ↔
        ∃ line ∈ source.lines, HasVagueOperand (tokensOfLine line)) := by
  rcases Draft.lines_strict verbose 0 source.lines (Draft.start ⟨verbose, false⟩ source) with
    ⟨hlines, hclear⟩ | ⟨d', g, token, hlines, hfault, hvague, hline, hle⟩
  · have hsame := assemble_eq_of_lines hlines
    rw [hsame]
    refine ⟨fun _ _ => rfl, ?_, ?_⟩
    · intro f hf
      exact ⟨f, hf, .inl rfl, .inl (Nat.le_refl f.line)⟩
    · intro p hp
      obtain ⟨d, hok, -, -⟩ := assemble_eq_ok_iff.mp hp
      rw [hok] at hclear
      constructor
      · rintro ⟨g, hg⟩
        rw [hp] at hg
        cases hg
      · rintro ⟨line, hmem, hline⟩
        exact absurd hline (hclear rfl line hmem)
  · have hstrict : (assemble ⟨verbose, true⟩ source).result = .error g :=
      assemble_eq_error_iff.mpr ⟨d', _, hlines, .inl rfl⟩
    refine ⟨?_, ?_, ?_⟩
    · intro p hp
      rw [hstrict] at hp
      cases hp
    · intro f hf
      have hreport : g.report = .diagnostic ⟨.parse, "Cannot resolve operand: ".toList ++ token,
          .source (some g.line) (some g.text)⟩ := by
        rw [AssemblyFault.report, hfault]
        rfl
      refine ⟨g, hstrict, .inr ⟨token, hfault, hvague, hreport⟩, ?_⟩
      obtain ⟨d, fault, hlenient, rfl | ⟨-, b, -, rfl⟩⟩ := assemble_eq_error_iff.mp hf
      · exact .inl (hle f (congrArg Prod.snd hlenient))
      · exact .inr ⟨b.directive, rfl⟩
    · exact fun p _ => ⟨fun _ => hline, fun _ => ⟨g, hstrict⟩⟩

/-- The block without an end is noticed at the end of the text, and reported at its directive. -/
theorem assemble_unterminated_unresolved :
    ∃ source f g, (assemble ⟨false, false⟩ source).result = .error f ∧
      (assemble ⟨false, true⟩ source).result = .error g ∧ ¬g.line ≤ f.line :=
  ⟨".f\nINC ?".toList, ⟨.unterminated ".f".toList, 0, ".f".toList⟩,
    ⟨.unresolved ['?'], 1, "INC ?".toList⟩, by rfl, by rfl, by decide⟩

theorem assemble_strict_vague :
    let source : Text := "MOV 1 b1\nINC ?x 7".toList
    (∃ p, (assemble {} source).result = .ok p) ∧
      ((∃ g, (assemble ⟨false, true⟩ source).result = .error g) ↔
        ∃ line ∈ source.lines, HasVagueOperand (tokensOfLine line)) ∧
      (assemble {} "MOV 1 b1".toList).result = (assemble ⟨false, true⟩ "MOV 1 b1".toList).result ∧
      ∃ g, (assemble ⟨false, true⟩ ".f".toList).result = .error g := by
  intro source
  have hok : (assemble {} source).result = .ok ⟨[⟨.movr, 1, 1⟩, ⟨.inc, 0, 0⟩, .halt], []⟩ := by rfl
  have hstrict : (assemble ⟨false, true⟩ "MOV 1 b1".toList).result =
      .ok ⟨[⟨.movr, 1, 1⟩, .halt], []⟩ := by rfl
  have hlenient : (assemble {} ".f".toList).result =
      .error ⟨.unterminated ".f".toList, 0, ".f".toList⟩ := by rfl
  refine ⟨⟨_, hok⟩, (assemble_strict false source).2.2 _ hok, ?_, ?_⟩
  · exact congrArg Assembly.result ((assemble_strict false _).1 _ hstrict)
  · obtain ⟨g, hg, -⟩ := (assemble_strict false _).2.1 _ hlenient
    exact ⟨g, hg⟩

end LetterMachine
