import LetterMachine.Proofs.Concatenation
import LetterMachine.Proofs.Fault

/-!
Where a fault is reported. Up to the line of the fault the text could have been the start of a
program, and with that line it is the start of none. Only a block without an end is noticed at the
end of the text.
-/

namespace LetterMachine

open Operand

theorem Operand.not_overlong_of_length {token : Text} (h : token.length ≤ Text.maxDigits)
    (digits : Text) : ¬Overlong token digits := by
  intro hlong
  have hlength : digits.length ≤ token.length := by
    rcases hlong.spelled with rfl | rfl
    · exact Nat.le_refl _
    · exact Nat.le_succ _
  exact absurd hlong.maxDigits_lt (Nat.not_lt.mpr (hlength.trans h))

namespace Assembly.Draft

variable {flags : AssemblyFlags} {n : Nat} {d d' : Draft} {tokens ls ls' : List Text}
  {f : AssemblyFault} {b : Block}

/-- Only the lines up to a faulty one decide whether it is faulty. -/
theorem lines_of_prefix (h : Draft.lines flags 0 ls d = (d', some f))
    (hextends : ls.take (f.line + 1) <+: ls') :
    Draft.lines flags 0 ls' d = (d', some f) := by
  obtain ⟨front, back, rfl, hn, hfront, hfault⟩ := exists_of_fault h
  obtain ⟨rest, rfl⟩ := hextends
  rw [Nat.zero_add] at hn
  have htake : (front ++ f.text :: back).take (f.line + 1) = front ++ [f.text] := by
    simp [hn, List.take_append, List.take_of_length_le]
  rw [← Nat.zero_add f.line, hn] at hfault
  rw [htake, List.append_assoc, List.singleton_append, hfault.lines_of_fault hfront, Nat.zero_add,
    ← hn]

theorem Lined.ne_unterminated {fault : LineFault}
    (h : Lined flags n d tokens d' (some fault)) (directive : Text) :
    fault ≠ .unterminated directive := by
  rintro rfl
  cases h with
  | undecodable _ hfault =>
      cases Instruction.faulty_of_ofTokens hfault with
      | operand _ hoperand => cases hoperand

theorem Lined.exists_kind {fault : LineFault} (h : Lined flags n d tokens d' (some fault))
    (hshort : IsPlain tokens → ∀ token ∈ tokens.tail.take 2, ∀ digits, ¬Overlong token digits) :
    ∃ kind, fault.kind? = some kind := by
  cases h with
  | endWithoutBlock | duplicate | nested => exact ⟨.block, rfl⟩
  | undecodable hplain hfault =>
      have hfaulty := Instruction.faulty_of_ofTokens hfault
      rcases hfaulty.kind with hkind | ⟨token, htoken, digits, hlong, -⟩
      · exact ⟨.parse, hkind⟩
      · exact absurd hlong (hshort hplain token htoken digits)

theorem Lined.opened_after (h : Lined flags n d tokens d' none) (hopened : d'.opened = some b) :
    d.opened = some b ∧ (∀ directive, ¬Opens tokens directive) ∨
      Opens tokens b.directive ∧ b.line = n := by
  cases h with
  | blank => exact .inl ⟨hopened, not_opens_nil⟩
  | closed _ hblock =>
      simp [Draft.close, hblock] at hopened
  | opened hopens _ _ =>
      cases hopened
      exact .inr ⟨hopens, rfl⟩
  | added hspelled =>
      refine .inl ⟨?_, hspelled.plain.not_opens⟩
      rw [← hopened]
      unfold Draft.add
      split <;> rfl

theorem opened_of_lines (h : Draft.lines flags n ls d = (d', none)) (hopened : d'.opened = some b) :
    d.opened = some b ∧ (∀ text ∈ ls, ∀ directive, ¬Opens (tokensOfLine text) directive) ∨
      ∃ front text back, ls = front ++ text :: back ∧ b.line = n + front.length ∧
        Opens (tokensOfLine text) b.directive ∧
        ∀ line ∈ back, ∀ directive, ¬Opens (tokensOfLine line) directive := by
  induction ls generalizing n d with
  | nil =>
      cases h
      exact .inl ⟨hopened, nofun⟩
  | cons text ls ih =>
      obtain ⟨d₁, hlined, h⟩ := lines_cons_eq_none.mp h
      rcases ih h with ⟨hbefore, hnone⟩ | ⟨front, other, back, rfl, hn, hopens, hnone⟩
      · rcases hlined.opened_after hbefore with ⟨hbefore, hnot⟩ | ⟨hopens, hn⟩
        · exact .inl ⟨hbefore, List.forall_mem_cons.mpr ⟨hnot, hnone⟩⟩
        · exact .inr ⟨[], text, ls, rfl, hn, hopens, hnone⟩
      · refine .inr ⟨text :: front, other, back, rfl, ?_, hopens, hnone⟩
        rw [hn, List.length_cons]
        omega

end Assembly.Draft

open Assembly

variable {flags : AssemblyFlags} {source s : Text} {f : AssemblyFault} {d : Draft}

theorem tokensOfLine_endDirective : tokensOfLine Block.endDirective = [Block.endDirective] := rfl

theorem assemble_append_end {b : Block} (hs : s.IsWhole)
    (h : Draft.lines flags 0 s.lines (Draft.start flags source) = (d, none))
    (hopened : d.opened = some b) :
    ∃ p, (assemble flags (s ++ Block.endDirective)).result = .ok p := by
  obtain ⟨e, he, hstacked⟩ := Draft.lines_start h (s ++ Block.endDirective)
  have hopened' := hstacked.opened_eq_some hopened
  have hsound := Draft.sound_of_lines (Draft.sound_start flags _) he
  obtain ⟨-, -, hclosed, -⟩ := Draft.close_of_opened hopened' (hsound.fresh _ hopened') flags
  have hend : Draft.Lined flags (0 + s.lines.length) e (tokensOfLine Block.endDirective)
      (e.close flags).1 none := by
    rw [tokensOfLine_endDirective]
    exact .closed rfl hopened'
  refine ⟨_, assemble_eq_ok_iff.mpr ⟨_, ?_, hclosed, rfl⟩⟩
  have hlines : Block.endDirective.lines = [Block.endDirective] := rfl
  rw [Text.lines_append hs, Draft.lines_append he, hlines, hend.lines_cons]
  rfl

/-- Lines without a fault are the start of a program. -/
theorem exists_continuation (hs : s.IsWhole)
    (h : Draft.lines flags 0 s.lines (Draft.start flags source) = (d, none)) :
    ∃ t p, s.lines <+: t.lines ∧ (assemble flags t).result = .ok p := by
  cases hopened : d.opened with
  | none =>
      obtain ⟨e, he, hstacked⟩ := Draft.lines_start h s
      have hresult := assemble_eq_ok_iff.mpr ⟨e, he, hstacked.opened_eq_none.mpr hopened, rfl⟩
      exact ⟨s, _, List.prefix_rfl, hresult⟩
  | some b =>
      obtain ⟨p, hp⟩ := assemble_append_end hs h hopened
      refine ⟨s ++ Block.endDirective, p, ?_, hp⟩
      rw [Text.lines_append hs]
      exact List.prefix_append _ _

theorem continuations_of_lines
    (h : Draft.lines flags 0 source.lines (Draft.start flags source) = (d, some f)) :
    (∃ t p, source.lines.take f.line <+: t.lines ∧ (assemble flags t).result = .ok p) ∧
      ∀ t p, source.lines.take (f.line + 1) <+: t.lines → (assemble flags t).result ≠ .ok p := by
  obtain ⟨front, back, hsplit, hn, hfront, -⟩ := Draft.exists_of_fault h
  rw [Nat.zero_add] at hn
  constructor
  · have hlt : f.line < source.lines.length := by
      rw [hsplit, hn, List.length_append, List.length_cons]
      omega
    obtain ⟨s, rest, -, hs, hlines⟩ := Text.exists_whole_of_lt hlt
    have htake : s.lines = front := by
      rw [hlines, hsplit, hn, List.take_left]
    rw [← hlines]
    rw [← htake] at hfront
    exact exists_continuation hs hfront
  · intro t p hextends hp
    obtain ⟨e, he, -⟩ := Draft.lines_start h t
    have hfault := Draft.lines_of_prefix he hextends
    obtain ⟨d', hlines, -, -⟩ := assemble_eq_ok_iff.mp hp
    rw [hfault] at hlines
    cases hlines

theorem assemble_append_break_end {b : Block}
    (h : Draft.lines flags 0 source.lines (Draft.start flags source) = (d, none))
    (hopened : d.opened = some b) :
    ∃ p, (assemble flags (source ++ '\n' :: Block.endDirective)).result = .ok p := by
  have hlines : Draft.lines flags 0 (source ++ ['\n']).lines (Draft.start flags source) =
      (d, none) := by
    rcases Text.lines_append_singleton_break source with hsame | hblank
    · rw [hsame, h]
    · rw [hblank, Draft.lines_append h]
      rfl
  have hwhole : Text.IsWhole (source ++ ['\n']) := .inr List.getLast?_concat
  have hp := assemble_append_end hwhole hlines hopened
  rwa [List.append_assoc, List.singleton_append] at hp

/-- Assembling fails at the first line that cannot be right. A text that has come so far could
still be the start of a program, but with that line no more. For a block without an end this is its
directive, which is the last of the text, and an end at the end makes a program of it. -/
theorem faulty_line_of_assemble
    (hshort : ∀ line ∈ source.lines, IsPlain (tokensOfLine line) →
      ∀ token ∈ (tokensOfLine line).tail.take 2, ∀ digits, ¬Overlong token digits)
    (h : (assemble flags source).result = .error f) :
    (∃ d, f.report = .diagnostic d ∧ d.line? = some f.line ∧ d.text? = some f.text) ∧
      source.lines[f.line]? = some f.text ∧
      ((∀ directive, f.fault ≠ .unterminated directive) →
        (∃ t p, source.lines.take f.line <+: t.lines ∧ (assemble flags t).result = .ok p) ∧
          ∀ t p, source.lines.take (f.line + 1) <+: t.lines →
            (assemble flags t).result ≠ .ok p) ∧
      ∀ directive, f.fault = .unterminated directive →
        Opens (tokensOfLine f.text) directive ∧
          (∀ line ∈ source.lines.drop (f.line + 1), ∀ other, ¬Opens (tokensOfLine line) other) ∧
          ∃ p, (assemble flags (source ++ '\n' :: Block.endDirective)).result = .ok p := by
  obtain ⟨d, fault, hlines, rfl | ⟨rfl, b, hopened, rfl⟩⟩ := assemble_eq_error_iff.mp h
  · obtain ⟨front, back, hsplit, hn, -, hfault⟩ := Draft.exists_of_fault hlines
    rw [Nat.zero_add] at hn
    have htext : source.lines[f.line]? = some f.text := by simp [hsplit, hn]
    refine ⟨?_, htext, fun _ => continuations_of_lines hlines, ?_⟩
    · obtain ⟨kind, hkind⟩ := hfault.exists_kind (hshort f.text (List.mem_of_getElem? htext))
      exact ⟨_, LineFault.report_of_kind? hkind _ _, rfl, rfl⟩
    · intro directive hdirective
      exact absurd hdirective (hfault.ne_unterminated directive)
  · have hstart : (Draft.start flags source).opened = none := by simp [Draft.start]
    obtain ⟨hbefore, -⟩ | ⟨front, text, back, hsplit, hn, hopens, hback⟩ :=
      Draft.opened_of_lines hlines hopened
    · rw [hstart] at hbefore
      cases hbefore
    · rw [Nat.zero_add] at hn
      have htext : source.lines[b.line]? = some text := by simp [hsplit, hn]
      have hdrop : source.lines.drop (b.line + 1) = back := by simp [hsplit, hn]
      dsimp only
      rw [htext, hdrop, Option.getD_some]
      refine ⟨⟨_, rfl, rfl, rfl⟩, rfl, ?_, ?_⟩
      · exact fun hterminated => absurd rfl (hterminated b.directive)
      · rintro directive heq
        cases heq
        exact ⟨hopens, hback, assemble_append_break_end hlines hopened⟩

theorem faulty_line_of_nested :
    let source : Text := "INC 1\n.f\n\t.g ; inside\n.end".toList
    let unclosed : Text := "; one block\n.f\nDEC 0\n".toList
    (∀ line ∈ source.lines ++ unclosed.lines, ∀ token ∈ (tokensOfLine line).tail.take 2,
        token.length ≤ Text.maxDigits) ∧
      (assemble {} source).result =
        .error ⟨.nested ".g".toList ".f".toList, 2, "\t.g ; inside".toList⟩ ∧
      (∃ t p, source.lines.take 2 <+: t.lines ∧ (assemble {} t).result = .ok p) ∧
      (∀ t p, source.lines.take 3 <+: t.lines → (assemble {} t).result ≠ .ok p) ∧
      (assemble {} unclosed).result = .error ⟨.unterminated ".f".toList, 1, ".f".toList⟩ ∧
      ∃ p, (assemble {} (unclosed ++ '\n' :: Block.endDirective)).result = .ok p := by
  intro source unclosed
  have hlength : ∀ line ∈ source.lines ++ unclosed.lines,
      ∀ token ∈ (tokensOfLine line).tail.take 2, token.length ≤ Text.maxDigits := by
    decide
  have hsource : (assemble {} source).result =
      .error ⟨.nested ".g".toList ".f".toList, 2, "\t.g ; inside".toList⟩ := by rfl
  have hunclosed : (assemble {} unclosed).result =
      .error ⟨.unterminated ".f".toList, 1, ".f".toList⟩ := by rfl
  obtain ⟨-, -, hsource', -⟩ := faulty_line_of_assemble (fun line hline _ token htoken =>
    not_overlong_of_length (hlength line (List.mem_append_left _ hline) token htoken)) hsource
  obtain ⟨-, -, -, hunclosed'⟩ := faulty_line_of_assemble (fun line hline _ token htoken =>
    not_overlong_of_length (hlength line (List.mem_append_right _ hline) token htoken)) hunclosed
  obtain ⟨hbefore, hafter⟩ := hsource' nofun
  exact ⟨hlength, hsource, hbefore, hafter, hunclosed, (hunclosed' _ rfl).2.2⟩

end LetterMachine
