import LetterMachine.Proofs.Draft

namespace LetterMachine.Assembly

/-- The line ends a block. -/
def IsEnd (tokens : List Text) : Prop := tokens.head? = some Block.endDirective

/-- The line opens a block with the given directive. -/
structure Opens (tokens : List Text) (directive : Text) : Prop where
  head : tokens.head? = some directive
  isDirective : isDirective directive = true
  ne_end : directive ≠ Block.endDirective

/-- The line is neither blank nor does it start with a directive. -/
def IsPlain (tokens : List Text) : Prop :=
  ∃ head, tokens.head? = some head ∧ isDirective head = false

/-- The line stands for an instruction. -/
structure Spelled (strict : Bool) (tokens : List Text) (i : Instruction) : Prop where
  plain : IsPlain tokens
  decoded : Instruction.ofTokens strict tokens = .ok i

theorem isDirective_endDirective : isDirective Block.endDirective = true := rfl

theorem Opens.eq_cons {tokens : List Text} {directive : Text} (h : Opens tokens directive) :
    directive = '.' :: directive.tail := by
  have hhead : directive.head? = some '.' := by simpa [Assembly.isDirective] using h.isDirective
  obtain ⟨name, rfl⟩ := List.head?_eq_some_iff.mp hhead
  rfl

theorem Opens.unique {tokens : List Text} {directive directive' : Text}
    (h : Opens tokens directive) (h' : Opens tokens directive') : directive' = directive :=
  Option.some.inj (h'.head.symm.trans h.head)

theorem IsEnd.not_opens {tokens : List Text} (h : IsEnd tokens) (directive : Text) :
    ¬Opens tokens directive := fun h' => h'.ne_end (Option.some.inj (h'.head.symm.trans h))

theorem IsPlain.not_opens {tokens : List Text} (h : IsPlain tokens) (directive : Text) :
    ¬Opens tokens directive := by
  obtain ⟨head, hhead, hplain⟩ := h
  intro h'
  cases Option.some.inj (h'.head.symm.trans hhead)
  exact Bool.false_ne_true (hplain.symm.trans h'.isDirective)

theorem IsPlain.not_isEnd {tokens : List Text} (h : IsPlain tokens) : ¬IsEnd tokens := by
  obtain ⟨head, hhead, hplain⟩ := h
  intro hend
  cases Option.some.inj (hend.symm.trans hhead)
  exact Bool.false_ne_true (hplain.symm.trans isDirective_endDirective)

theorem line_kinds (tokens : List Text) :
    tokens = [] ∨ IsEnd tokens ∨ (∃ directive, Opens tokens directive) ∨ IsPlain tokens := by
  rcases tokens with _ | ⟨head, rest⟩
  · exact .inl rfl
  · by_cases hend : head = Block.endDirective
    · exact .inr (.inl (congrArg some hend))
    · cases hdirective : isDirective head with
      | true => exact .inr (.inr (.inl ⟨head, rfl, hdirective, hend⟩))
      | false => exact .inr (.inr (.inr ⟨head, rfl, hdirective⟩))

theorem not_opens_nil (directive : Text) : ¬Opens [] directive := by
  intro h
  cases h.head

namespace Draft

variable {flags : AssemblyFlags} {n : Nat} {d d' : Draft} {tokens : List Text}
  {fault : Option LineFault}

/-- The ways in which a line of tokens is read: the draft afterwards, and the fault if there is
one. -/
inductive Lined (flags : AssemblyFlags) (n : Nat) (d : Draft) :
    List Text → Draft → Option LineFault → Prop
  | blank : Lined flags n d [] d none
  | closed {tokens : List Text} {b : Block} (hend : IsEnd tokens) (hopened : d.opened = some b) :
      Lined flags n d tokens (d.close flags).1 none
  | endWithoutBlock {tokens : List Text} (hend : IsEnd tokens) (hopened : d.opened = none) :
      Lined flags n d tokens d (some .endWithoutBlock)
  | opened {tokens : List Text} {directive : Text} (hopens : Opens tokens directive)
      (hopened : d.opened = none) (hfresh : directive.tail ∉ d.blocks.map Block.name) :
      Lined flags n d tokens { d with opened := some ⟨directive.tail, directive, n, []⟩ } none
  | duplicate {tokens : List Text} {directive : Text} (hopens : Opens tokens directive)
      (hopened : d.opened = none) (hname : directive.tail ∈ d.blocks.map Block.name) :
      Lined flags n d tokens d (some (.duplicate directive))
  | nested {tokens : List Text} {directive : Text} {b : Block} (hopens : Opens tokens directive)
      (hopened : d.opened = some b) :
      Lined flags n d tokens d (some (.nested directive b.directive))
  | added {tokens : List Text} {i : Instruction} (hspelled : Spelled flags.strict tokens i) :
      Lined flags n d tokens (d.add n i) none
  | undecodable {tokens : List Text} {fault : LineFault} (hplain : IsPlain tokens)
      (hfault : Instruction.ofTokens flags.strict tokens = .error fault) :
      Lined flags n d tokens d (some fault)

theorem lined_line (flags : AssemblyFlags) (n : Nat) (d : Draft) (tokens : List Text) :
    Lined flags n d tokens (d.line flags n tokens).1 (d.line flags n tokens).2 := by
  rcases tokens with _ | ⟨head, rest⟩
  · exact .blank
  · unfold Draft.line
    dsimp only
    split
    · rename_i hend
      have hisEnd : IsEnd (head :: rest) := congrArg some hend
      cases hopened : d.opened with
      | none => simpa [Draft.close, hopened] using Lined.endWithoutBlock hisEnd hopened
      | some b => simpa [Draft.close, hopened] using Lined.closed hisEnd hopened
    · rename_i hend
      split
      · rename_i hdirective
        have hopens : Opens (head :: rest) head := ⟨rfl, hdirective, hend⟩
        unfold Draft.openBlock
        split
        · rename_i b hopened
          exact .nested hopens hopened
        · rename_i hopened
          split
          · rename_i hname
            exact .duplicate hopens hopened (any_name_iff.mp hname)
          · rename_i hname
            exact .opened hopens hopened fun h => hname (any_name_iff.mpr h)
      · rename_i hdirective
        have hplain : IsPlain (head :: rest) := ⟨head, rfl, by simpa using hdirective⟩
        split
        · rename_i i hdecoded
          exact .added ⟨hplain, hdecoded⟩
        · rename_i fault hfault
          exact .undecodable hplain hfault

theorem line_of_isEnd (h : IsEnd tokens) : d.line flags n tokens = d.close flags := by
  obtain ⟨rest, rfl⟩ := List.head?_eq_some_iff.mp h
  rw [Draft.line, if_pos rfl]

theorem line_of_opens {directive : Text} (h : Opens tokens directive) :
    d.line flags n tokens = d.openBlock n directive := by
  obtain ⟨rest, rfl⟩ := List.head?_eq_some_iff.mp h.head
  exact (if_neg h.ne_end).trans (if_pos h.isDirective)

theorem line_of_isPlain (h : IsPlain tokens) :
    d.line flags n tokens =
      match Instruction.ofTokens flags.strict tokens with
      | .ok i => (d.add n i, none)
      | .error fault => (d, some fault) := by
  obtain ⟨head, hhead, hplain⟩ := h
  obtain ⟨rest, rfl⟩ := List.head?_eq_some_iff.mp hhead
  have hend : head ≠ Block.endDirective := by
    rintro rfl
    rw [isDirective_endDirective] at hplain
    cases hplain
  have hdirective : ¬isDirective head = true := by simp [hplain]
  exact (if_neg hend).trans (if_neg hdirective)

theorem Lined.line_eq (h : Lined flags n d tokens d' fault) :
    d.line flags n tokens = (d', fault) := by
  cases h with
  | blank => rfl
  | closed hend hopened => rw [line_of_isEnd hend, Draft.close, hopened]
  | endWithoutBlock hend hopened => rw [line_of_isEnd hend, Draft.close, hopened]
  | opened hopens hopened hfresh =>
      rw [line_of_opens hopens, Draft.openBlock, hopened]
      exact if_neg fun h => hfresh (any_name_iff.mp h)
  | duplicate hopens hopened hname =>
      rw [line_of_opens hopens, Draft.openBlock, hopened]
      exact if_pos (any_name_iff.mpr hname)
  | nested hopens hopened => rw [line_of_opens hopens, Draft.openBlock, hopened]
  | added hspelled => rw [line_of_isPlain hspelled.plain, hspelled.decoded]
  | undecodable hplain hfault => rw [line_of_isPlain hplain, hfault]

theorem Lined.lines_cons {text : Text} (h : Lined flags n d (tokensOfLine text) d' none)
    (ls : List Text) :
    Draft.lines flags n (text :: ls) d = Draft.lines flags (n + 1) ls d' := by
  rw [Draft.lines, h.line_eq]

theorem lines_cons_eq_none {text : Text} {ls : List Text} :
    Draft.lines flags n (text :: ls) d = (d', none) ↔
      ∃ d₁, Lined flags n d (tokensOfLine text) d₁ none ∧
        Draft.lines flags (n + 1) ls d₁ = (d', none) := by
  constructor
  · intro h
    have hlined := lined_line flags n d (tokensOfLine text)
    rw [Draft.lines] at h
    rcases hline : d.line flags n (tokensOfLine text) with ⟨d₁, _ | fault⟩
    · rw [hline] at h hlined
      exact ⟨d₁, hlined, h⟩
    · rw [hline] at h
      cases h
  · rintro ⟨d₁, hlined, h⟩
    rw [hlined.lines_cons, h]

theorem lines_invariant {P : List Text → Draft → Prop} {front ls : List Text}
    (hstep : ∀ front text d d', P front d →
      Lined flags front.length d (tokensOfLine text) d' none → P (front ++ [text]) d')
    (hd : P front d) (h : Draft.lines flags front.length ls d = (d', none)) :
    P (front ++ ls) d' := by
  induction ls generalizing front d with
  | nil =>
      cases h
      rwa [List.append_nil]
  | cons text ls ih =>
      obtain ⟨d₁, hlined, h⟩ := lines_cons_eq_none.mp h
      rw [List.append_cons]
      apply ih (hstep front text d d₁ hd hlined)
      rwa [List.length_append]

theorem lines_append {ls : List Text} (h : Draft.lines flags n ls d = (d', none))
    (ls' : List Text) :
    Draft.lines flags n (ls ++ ls') d = Draft.lines flags (n + ls.length) ls' d' := by
  induction ls generalizing n d with
  | nil =>
      cases h
      rfl
  | cons text ls ih =>
      obtain ⟨d₁, hlined, h⟩ := lines_cons_eq_none.mp h
      rw [List.cons_append, hlined.lines_cons, ih h, List.length_cons]
      congr 1
      omega

theorem Lined.eq_of_fault {fault : LineFault} (h : Lined flags n d tokens d' (some fault)) :
    d' = d := by
  cases h <;> rfl

theorem exists_of_fault {ls : List Text} {f : AssemblyFault}
    (h : Draft.lines flags n ls d = (d', some f)) :
    ∃ front back, ls = front ++ f.text :: back ∧ f.line = n + front.length ∧
      Draft.lines flags n front d = (d', none) ∧
      Lined flags f.line d' (tokensOfLine f.text) d' (some f.fault) := by
  induction ls generalizing n d with
  | nil => cases h
  | cons text ls ih =>
      unfold Draft.lines at h
      have hlined := lined_line flags n d (tokensOfLine text)
      rcases hline : d.line flags n (tokensOfLine text) with ⟨d₁, _ | fault⟩
      · rw [hline] at h hlined
        obtain ⟨front, back, rfl, hn, hfront, hfault⟩ := ih h
        refine ⟨text :: front, back, rfl, ?_, (hlined.lines_cons front).trans hfront, hfault⟩
        rw [hn, List.length_cons]
        omega
      · rw [hline] at h hlined
        cases h
        obtain rfl := hlined.eq_of_fault
        exact ⟨[], ls, rfl, rfl, rfl, hlined⟩

theorem lined_of_fault {ls : List Text} {f : AssemblyFault}
    (h : Draft.lines flags n ls d = (d', some f)) :
    ∃ k, f.line = n + k ∧ ls[k]? = some f.text ∧
      ∃ d₀, Lined flags f.line d₀ (tokensOfLine f.text) d' (some f.fault) := by
  obtain ⟨front, back, rfl, hn, -, hfault⟩ := exists_of_fault h
  refine ⟨front.length, hn, ?_, d', hfault⟩
  simp

theorem Lined.lines_of_fault {ls : List Text} {text : Text} {fault : LineFault}
    (h : Lined flags (n + ls.length) d' (tokensOfLine text) d' (some fault))
    (hlines : Draft.lines flags n ls d = (d', none)) (ls' : List Text) :
    Draft.lines flags n (ls ++ text :: ls') d = (d', some ⟨fault, n + ls.length, text⟩) := by
  rw [lines_append hlines, Draft.lines, h.line_eq]

theorem lines_append_of_fault {ls : List Text} {f : AssemblyFault}
    (h : Draft.lines flags n ls d = (d', some f)) (ls' : List Text) :
    Draft.lines flags n (ls ++ ls') d = (d', some f) := by
  obtain ⟨front, back, rfl, hn, hfront, hfault⟩ := exists_of_fault h
  rw [hn] at hfault
  rw [List.append_assoc, List.cons_append, hfault.lines_of_fault hfront, ← hn]

theorem add_of_idle (hopened : d.opened = none) (n : Nat) (i : Instruction) :
    d.add n i = { d with
      instructions := d.instructions.push i, entries := d.entries.push ⟨n, none, i⟩ } := by
  rw [Draft.add, hopened]

theorem add_of_opened {b : Block} (hopened : d.opened = some b) (n : Nat) (i : Instruction) :
    d.add n i = { d with
      body := d.body.push i, entries := d.entries.push ⟨n, some b.name, i⟩ } := by
  rw [Draft.add, hopened]

theorem close_of_opened {b : Block} (hopened : d.opened = some b)
    (hfresh : b.name ∉ d.blocks.map Block.name) (flags : AssemblyFlags) :
    (d.close flags).1.instructions = d.instructions ∧
      (d.close flags).1.blocks = d.blocks ++ [{ b with instructions := d.body.toList }] ∧
      (d.close flags).1.opened = none ∧ (d.close flags).1.body = #[] := by
  simp only [Draft.close, hopened]
  refine ⟨?_, ?_, ?_, ?_⟩
  · rw [note_instructions]
  · rw [note_blocks, Program.define_of_not_mem hfresh]
  · rw [note_opened]
  · rw [note_body]

theorem close_entries (d : Draft) (flags : AssemblyFlags) :
    (d.close flags).1.entries = d.entries := by
  unfold Draft.close
  split
  · rfl
  · exact note_entries _ _ _

end Draft

end LetterMachine.Assembly
