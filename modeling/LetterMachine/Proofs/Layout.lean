import LetterMachine.Proofs.Line

namespace LetterMachine

open Assembly

/-- A line of tokens with one space between each two. -/
def tidyLine (tokens : List Text) : Text := [' '].intercalate tokens

/-- The tokens of a source text with one space between each two, and a line feed after each line. -/
def tidy (source : Text) : Text :=
  (tokenLines source).flatMap fun tokens => tidyLine tokens ++ ['\n']

/-- The failure without the text of the line on which it lies. -/
def Failure.withoutText : Failure → Failure
  | .diagnostic ⟨kind, detail, .source line _⟩ => .diagnostic ⟨kind, detail, .source line none⟩
  | failure => failure

/-- The fault with another text of its line. -/
def AssemblyFault.retext (f : AssemblyFault) (g : Text → Text) : AssemblyFault :=
  { f with text := g f.text }

theorem AssemblyFault.withoutText_retext (f : AssemblyFault) (g : Text → Text) :
    (f.retext g).report.withoutText = f.report.withoutText := by
  rcases f with ⟨fault, line, text⟩
  cases fault <;> rfl

theorem tokensOfLine_tidyLine (line : Text) :
    tokensOfLine (tidyLine (tokensOfLine line)) = tokensOfLine line :=
  tokensOfLine_intercalate fun _ hw => isToken_of_mem_tokensOfLine hw

theorem not_mem_tidyLine {tokens : List Text} (h : ∀ w ∈ tokens, IsToken w) {c : Char}
    (hc : Text.isBlank c = true) (hne : c ≠ ' ') : c ∉ tidyLine tokens := by
  intro hmem
  rcases mem_intercalate hmem with hspace | ⟨w, hw, hcw⟩
  · exact hne (List.mem_singleton.mp hspace)
  · rw [(h w hw).solid c hcw] at hc
    cases hc

theorem isToken_of_mem_tokenLines {source : Text} {tokens : List Text}
    (htokens : tokens ∈ tokenLines source) : ∀ w ∈ tokens, IsToken w := by
  intro w hw
  obtain ⟨line, -, rfl⟩ := List.mem_map.mp htokens
  exact isToken_of_mem_tokensOfLine hw

theorem lines_tidy (source : Text) :
    (tidy source).lines = source.lines.map fun line => tidyLine (tokensOfLine line) := by
  have hunbroken : ∀ line ∈ (tokenLines source).map tidyLine, '\n' ∉ line := by
    intro line hline
    obtain ⟨tokens, htokens, rfl⟩ := List.mem_map.mp hline
    exact not_mem_tidyLine (isToken_of_mem_tokenLines htokens) (by decide) (by decide)
  have hdrop : ∀ line ∈ (tokenLines source).map tidyLine, Text.dropReturn line = line := by
    intro line hline
    obtain ⟨tokens, htokens, rfl⟩ := List.mem_map.mp hline
    apply Text.dropReturn_of_getLast?_ne
    intro hlast
    exact not_mem_tidyLine (isToken_of_mem_tokenLines htokens) (by decide) (by decide)
      (List.mem_of_getLast? hlast)
  have hlines := Text.lines_flatMap_break hunbroken
  rw [List.map_congr_left hdrop, List.map_id', List.flatMap_map, tokenLines, List.map_map,
    ← tokenLines] at hlines
  exact hlines

theorem tokenLines_of_lines_map {g : Text → Text}
    (hg : ∀ line, tokensOfLine (g line) = tokensOfLine line) {s t : Text}
    (h : t.lines = s.lines.map g) : tokenLines t = tokenLines s := by
  rw [tokenLines, h, List.map_map, tokenLines]
  exact List.map_congr_left fun line _ => hg line

theorem tokenLines_tidy (source : Text) : tokenLines (tidy source) = tokenLines source :=
  tokenLines_of_lines_map tokensOfLine_tidyLine (lines_tidy source)

namespace Assembly.Draft

theorem lines_map {g : Text → Text} (hg : ∀ line, tokensOfLine (g line) = tokensOfLine line)
    (flags : AssemblyFlags) (n : Nat) (ls : List Text) (d : Draft) :
    Draft.lines flags n (ls.map g) d =
      ((Draft.lines flags n ls d).1, (Draft.lines flags n ls d).2.map (·.retext g)) := by
  induction ls generalizing n d with
  | nil => rfl
  | cons text ls ih =>
      rw [List.map_cons, Draft.lines, Draft.lines, hg]
      rcases d.line flags n (tokensOfLine text) with ⟨d', _ | fault⟩
      · exact ih (n + 1) d'
      · rfl

end Assembly.Draft

theorem assemble_of_lines_map {g : Text → Text}
    (hg : ∀ line, tokensOfLine (g line) = tokensOfLine line) (hnil : g [] = []) {s t : Text}
    (h : t.lines = s.lines.map g) (flags : AssemblyFlags) :
    assemble flags t = { assemble flags s with
      result := (assemble flags s).result.mapError (·.retext g) } := by
  have htokens : tokensNote t = tokensNote s := by
    unfold tokensNote
    rw [tokenLines_of_lines_map hg h]
  unfold assemble
  dsimp only
  rw [h, htokens, Draft.lines_map hg]
  rcases Draft.lines flags 0 s.lines (Draft.note {} flags (tokensNote s)) with ⟨d, _ | fault⟩
  · rcases hopened : d.opened with _ | b
    · simp [Except.mapError]
    · have htext : (s.lines[b.line]?.map g).getD [] = g (s.lines[b.line]?.getD []) := by
        rw [← hnil, Option.getD_map, hnil]
      simp [htext, Except.mapError, AssemblyFault.retext]
  · simp [Except.mapError]

/-- Layout and comments carry no meaning. -/
theorem assemble_tidy (source : Text) :
    tokenLines (tidy source) = tokenLines source ∧
      (∀ tokens ∈ tokenLines source, ∀ w ∈ tokens, IsToken w) ∧
      ∀ flags : AssemblyFlags,
        let found := assemble flags source
        let tidied := assemble flags (tidy source)
        tidied.result.mapError (·.report.withoutText) =
            found.result.mapError (·.report.withoutText) ∧
          tidied.entries = found.entries ∧ tidied.notes = found.notes := by
  refine ⟨tokenLines_tidy source, fun _ htokens => isToken_of_mem_tokenLines htokens, ?_⟩
  intro flags found tidied
  let retidy : Text → Text := fun line => tidyLine (tokensOfLine line)
  have htidied : tidied = { found with result := found.result.mapError (·.retext retidy) } :=
    assemble_of_lines_map tokensOfLine_tidyLine rfl (lines_tidy source) flags
  rw [htidied]
  refine ⟨?_, rfl, rfl⟩
  cases found.result with
  | ok p => rfl
  | error f => exact congrArg Except.error (f.withoutText_retext retidy)

theorem assemble_tidy_separators :
    let source : Text := "\tINC\u00a0a ; x\r\n;\n.f\x1c1\r\nDEC\u2028b;\n.end\n FOO;\r".toList
    let f : AssemblyFault := ⟨.unknownInstruction "FOO".toList, 5, " FOO;".toList⟩
    tidy source = "INC a\n\n.f 1\nDEC b\n.end\nFOO\n".toList ∧
      tokenLines (tidy source) = tokenLines source ∧
      ["DEC".toList, ['b']] ∈ tokenLines source ∧ IsToken "DEC".toList ∧
      (assemble {} source).result = .error f ∧
      (assemble {} (tidy source)).result.mapError (·.report.withoutText) =
        .error f.report.withoutText ∧
      (assemble {} (tidy source)).entries =
        [⟨0, none, ⟨.inc, 0, 0⟩⟩, ⟨3, some "f".toList, ⟨.dec, 1, 0⟩⟩] := by
  intro source f
  obtain ⟨htokens, htoken, hassembly⟩ := assemble_tidy source
  obtain ⟨hresult, hentries, -⟩ := hassembly {}
  have hmem : ["DEC".toList, ['b']] ∈ tokenLines source := by decide
  have hfault : (assemble {} source).result = .error f := by rfl
  rw [hfault] at hresult
  refine ⟨by decide, htokens, hmem, htoken _ hmem _ List.mem_cons_self, hfault, hresult, ?_⟩
  rw [hentries]
  rfl

end LetterMachine
