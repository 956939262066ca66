import LetterMachine.Assembly
import LetterMachine.Proofs.Canonical
import Mathlib.Data.List.Nodup

/-!
Well-formed programs, and drafts of them. Reading a line keeps a draft well formed, so that every
assembled program is well formed.
-/

namespace LetterMachine

/-- A block whose directive can be read as the start of that block. -/
structure Block.WellFormed (b : Block) : Prop where
  directive_eq : b.directive = '.' :: b.name
  isToken : IsToken b.directive
  ne_end : b.directive ≠ Block.endDirective
  canonical : ∀ i ∈ b.instructions, i.Canonical

/-- A program of canonical instructions, the last of which halts, and of well-formed blocks with
different names. -/
structure Program.WellFormed (p : Program) : Prop where
  getLast : p.instructions.getLast? = some .halt
  canonical : ∀ i ∈ p.instructions, i.Canonical
  blocks : ∀ b ∈ p.blocks, b.WellFormed
  names : (p.blocks.map Block.name).Nodup

theorem any_name_iff {blocks : List Block} {name : Text} :
    (blocks.any fun b => b.name == name) = true ↔ name ∈ blocks.map Block.name := by
  rw [List.any_eq_true, List.mem_map]
  simp

theorem forall_mem_push {α : Type} {P : α → Prop} {l : List α} {a : α} (hl : ∀ x ∈ l, P x)
    (ha : P a) : ∀ x ∈ l ++ [a], P x :=
  List.forall_mem_append.mpr ⟨hl, List.forall_mem_singleton.mpr ha⟩

theorem pairwise_push {α : Type} {R : α → α → Prop} {l : List α} {a : α} (hl : l.Pairwise R)
    (ha : ∀ x ∈ l, R x a) : (l ++ [a]).Pairwise R :=
  List.pairwise_append.mpr ⟨hl, List.pairwise_singleton R a, fun x hx =>
    List.forall_mem_singleton.mpr (ha x hx)⟩

theorem Program.define_of_not_mem {blocks : List Block} {b : Block}
    (hfresh : b.name ∉ blocks.map Block.name) (is : List Instruction) :
    define blocks { b with instructions := is } = blocks ++ [{ b with instructions := is }] := by
  apply define_of_fresh
  intro c hc heq
  exact hfresh (heq ▸ List.mem_map_of_mem hc)

namespace Assembly

/-- A draft of a well-formed program, in which an open block has a name of its own. -/
structure Draft.WellFormed (d : Draft) : Prop where
  instructions : ∀ i ∈ d.instructions.toList, i.Canonical
  body : ∀ i ∈ d.body.toList, i.Canonical
  blocks : ∀ b ∈ d.blocks, b.WellFormed
  names : (d.blocks.map Block.name).Nodup
  opened : ∀ b, d.opened = some b → b.WellFormed ∧ b.name ∉ d.blocks.map Block.name

namespace Draft

def start (flags : AssemblyFlags) (source : Text) : Draft :=
  Draft.note {} flags (tokensNote source)

@[simp]
theorem note_instructions (d : Draft) (flags : AssemblyFlags) (text : Text) :
    (d.note flags text).instructions = d.instructions := by
  unfold Draft.note
  split <;> rfl

@[simp]
theorem note_blocks (d : Draft) (flags : AssemblyFlags) (text : Text) :
    (d.note flags text).blocks = d.blocks := by
  unfold Draft.note
  split <;> rfl

@[simp]
theorem note_opened (d : Draft) (flags : AssemblyFlags) (text : Text) :
    (d.note flags text).opened = d.opened := by
  unfold Draft.note
  split <;> rfl

@[simp]
theorem note_body (d : Draft) (flags : AssemblyFlags) (text : Text) :
    (d.note flags text).body = d.body := by
  unfold Draft.note
  split <;> rfl

@[simp]
theorem note_entries (d : Draft) (flags : AssemblyFlags) (text : Text) :
    (d.note flags text).entries = d.entries := by
  unfold Draft.note
  split <;> rfl

theorem wellFormed_new : ({} : Draft).WellFormed where
  instructions i hi := by simp at hi
  body i hi := by simp at hi
  blocks b hb := by cases hb
  names := List.nodup_nil
  opened b hb := by cases hb

variable {d : Draft} {flags : AssemblyFlags}

theorem WellFormed.note (hd : d.WellFormed) (flags : AssemblyFlags) (text : Text) :
    (d.note flags text).WellFormed where
  instructions := by simpa using hd.instructions
  body := by simpa using hd.body
  blocks := by simpa using hd.blocks
  names := by simpa using hd.names
  opened := by simpa using hd.opened

theorem wellFormed_start (flags : AssemblyFlags) (source : Text) :
    (Draft.start flags source).WellFormed := wellFormed_new.note flags (tokensNote source)

theorem WellFormed.close (hd : d.WellFormed) (flags : AssemblyFlags) :
    (d.close flags).1.WellFormed := by
  unfold Draft.close
  split
  · exact hd
  · rename_i b hopened
    obtain ⟨hb, hfresh⟩ := hd.opened b hopened
    apply WellFormed.note
    rw [Program.define_of_not_mem hfresh]
    refine ⟨hd.instructions, ?_, ?_, ?_, ?_⟩
    · intro i hi
      simp at hi
    · exact forall_mem_push hd.blocks ⟨hb.directive_eq, hb.isToken, hb.ne_end, hd.body⟩
    · rw [List.map_append]
      apply pairwise_push hd.names
      intro name hname heq
      exact hfresh (heq ▸ hname)
    · intro c hc
      cases hc

theorem WellFormed.openBlock (hd : d.WellFormed) {directive : Text}
    (hdirective : isDirective directive) (htoken : IsToken directive)
    (hend : directive ≠ Block.endDirective) (line : Nat) :
    (d.openBlock line directive).1.WellFormed := by
  unfold Draft.openBlock
  split
  · exact hd
  · split
    · exact hd
    · rename_i hfresh
      refine ⟨hd.instructions, hd.body, hd.blocks, hd.names, ?_⟩
      intro b hb
      cases hb
      have hhead : directive.head? = some '.' := by simpa [isDirective] using hdirective
      obtain ⟨name, rfl⟩ := List.head?_eq_some_iff.mp hhead
      refine ⟨⟨rfl, htoken, hend, ?_⟩, ?_⟩
      · intro i hi
        cases hi
      · intro hname
        exact hfresh (any_name_iff.mpr hname)

theorem WellFormed.add (hd : d.WellFormed) {i : Instruction} (hi : i.Canonical) (line : Nat) :
    (d.add line i).WellFormed := by
  have hpush : ∀ {is : Array Instruction}, (∀ j ∈ is.toList, j.Canonical) →
      ∀ j ∈ (is.push i).toList, j.Canonical := by
    intro is his
    rw [Array.toList_push]
    exact forall_mem_push his hi
  unfold Draft.add
  split
  · rename_i hopened
    refine ⟨hpush hd.instructions, hd.body, hd.blocks, hd.names, ?_⟩
    exact fun b hb => hd.opened b hb
  · refine ⟨hd.instructions, hpush hd.body, hd.blocks, hd.names, ?_⟩
    exact fun b hb => hd.opened b hb

theorem WellFormed.line (hd : d.WellFormed) (flags : AssemblyFlags) (n : Nat) {tokens : List Text}
    (htokens : ∀ w ∈ tokens, IsToken w) : (d.line flags n tokens).1.WellFormed := by
  unfold Draft.line
  split
  · exact hd
  · rename_i head rest
    have hhead := htokens head List.mem_cons_self
    split
    · exact hd.close flags
    · rename_i hend
      split
      · rename_i hdirective
        exact hd.openBlock hdirective hhead hend n
      · split
        · rename_i i hi
          exact hd.add (Instruction.canonical_ofTokens hi) n
        · exact hd

/-- What each line keeps, be it faulty or not, reading lines keeps. -/
theorem lines_kept {P : Draft → Prop}
    (hline : ∀ n text d, P d → P (d.line flags n (tokensOfLine text)).1) (hd : P d) (n : Nat)
    (ls : List Text) : P (Draft.lines flags n ls d).1 := by
  induction ls generalizing n d with
  | nil => exact hd
  | cons text ls ih =>
      have hnext := hline n text d hd
      unfold Draft.lines
      rcases hresult : d.line flags n (tokensOfLine text) with ⟨d', _ | fault⟩
      · rw [hresult] at hnext
        exact ih hnext (n + 1)
      · rw [hresult] at hnext
        exact hnext

theorem WellFormed.lines (hd : d.WellFormed) (flags : AssemblyFlags) (n : Nat) (ls : List Text) :
    (Draft.lines flags n ls d).1.WellFormed := by
  apply lines_kept (P := WellFormed) _ hd
  intro n text d hd
  exact hd.line flags n fun w hw => isToken_of_mem_tokensOfLine hw

theorem WellFormed.program (hd : d.WellFormed) : d.program.WellFormed where
  getLast := List.getLast?_concat
  canonical := forall_mem_push hd.instructions Instruction.canonical_halt
  blocks := hd.blocks
  names := hd.names

end Draft

end Assembly

open Assembly

/-- Assembling succeeds if no line is faulty and no block is open at the end. -/
theorem assemble_eq_ok_iff {flags : AssemblyFlags} {source : Text} {p : Program} :
    (assemble flags source).result = .ok p ↔
      ∃ d, Draft.lines flags 0 source.lines (Draft.start flags source) = (d, none) ∧
        d.opened = none ∧ d.program = p := by
  unfold assemble Draft.start
  dsimp only
  generalize Draft.lines flags 0 source.lines (Draft.note {} flags (tokensNote source)) = result
  rcases result with ⟨d, _ | fault⟩
  · rcases hopened : d.opened with _ | b
    · simp [hopened]
    · simp [hopened]
  · simp

/-- Assembling fails at the first faulty line, or for a block that is open at the end. -/
theorem assemble_eq_error_iff {flags : AssemblyFlags} {source : Text} {f : AssemblyFault} :
    (assemble flags source).result = .error f ↔
      ∃ d fault, Draft.lines flags 0 source.lines (Draft.start flags source) = (d, fault) ∧
        (fault = some f ∨ fault = none ∧ ∃ b, d.opened = some b ∧
          f = ⟨.unterminated b.directive, b.line, source.lines[b.line]?.getD []⟩) := by
  unfold assemble Draft.start
  dsimp only
  generalize Draft.lines flags 0 source.lines (Draft.note {} flags (tokensNote source)) = result
  rcases result with ⟨d, _ | fault⟩
  · rcases hopened : d.opened with _ | b
    · simp [hopened]
    · simp [hopened, eq_comm]
  · simp

theorem assemble_entries (flags : AssemblyFlags) (source : Text) :
    (assemble flags source).entries =
      (Draft.lines flags 0 source.lines (Draft.start flags source)).1.entries.toList := by
  unfold assemble Draft.start
  dsimp only
  generalize Draft.lines flags 0 source.lines (Draft.note {} flags (tokensNote source)) = result
  rcases result with ⟨d, fault⟩
  dsimp only
  split <;> rfl

/-- Every program that a source text assembles to is well formed. -/
theorem Program.wellFormed_of_assemble {flags : AssemblyFlags} {source : Text} {p : Program}
    (h : (assemble flags source).result = .ok p) : p.WellFormed := by
  obtain ⟨d, hlines, -, rfl⟩ := assemble_eq_ok_iff.mp h
  have hd := (Draft.wellFormed_start flags source).lines flags 0 source.lines
  rw [hlines] at hd
  exact hd.program

end LetterMachine
