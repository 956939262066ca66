import LetterMachine.Proofs.Line

/-!
The grammar of programs. A source text assembles if and only if its lines of tokens split into
instructions and blocks with different directives, and the program then consists of these.
-/

namespace LetterMachine

open Assembly

/-- The lines of tokens that are not blank, each with its number. -/
def numbered (n : Nat) (lines : List (List Text)) : List (List Text × Nat) :=
  (lines.zipIdx n).filter fun line => !line.1.isEmpty

/-- The lines of a source text that are not blank, each with its number. -/
def codeLines (source : Text) : List (List Text × Nat) := numbered 0 (tokenLines source)

theorem numbered_nil (n : Nat) : numbered n [] = [] := rfl

theorem numbered_blank (n : Nat) (lines : List (List Text)) :
    numbered n ([] :: lines) = numbered (n + 1) lines := rfl

theorem numbered_cons {tokens : List Text} (h : tokens ≠ []) (n : Nat)
    (lines : List (List Text)) :
    numbered n (tokens :: lines) = (tokens, n) :: numbered (n + 1) lines := by
  obtain ⟨head, rest, rfl⟩ := List.exists_cons_of_ne_nil h
  rfl

/-- A part of a program. -/
inductive Item where
  | instruction (i : Instruction)
  | block (b : Block)
  deriving DecidableEq, Repr

namespace Item

def instruction? : Item → Option Instruction
  | instruction i => some i
  | block _ => none

def block? : Item → Option Block
  | instruction _ => none
  | block b => some b

/-- The lines that an item is written as: one line for an instruction, and for a block a directive,
the instructions of the block and an end. -/
inductive Written (strict : Bool) : Item → List (List Text × Nat) → Prop
  | instruction {line : List Text × Nat} {i : Instruction} (hspelled : Spelled strict line.1 i) :
      Written strict (.instruction i) [line]
  | block {first last : List Text × Nat} {body : List (List Text × Nat)} {directive : Text}
      {is : List Instruction} (hopens : Opens first.1 directive)
      (hbody : List.Forall₂ (fun line i => Spelled strict line.1 i) body is)
      (hend : IsEnd last.1) :
      Written strict (.block ⟨directive.tail, directive, first.2, is⟩) (first :: (body ++ [last]))

theorem Written.directive_eq {strict : Bool} {b : Block} {piece : List (List Text × Nat)}
    (h : Written strict (.block b) piece) : b.directive = '.' :: b.name := by
  cases h with
  | block hopens _ _ => exact hopens.eq_cons

end Item

/-- Lines that split into the given items, one after another. -/
inductive Splits (strict : Bool) : List (List Text × Nat) → List Item → Prop
  | nil : Splits strict [] []
  | cons {item : Item} {items : List Item} {piece rest : List (List Text × Nat)}
      (hwritten : item.Written strict piece) (hrest : Splits strict rest items) :
      Splits strict (piece ++ rest) (item :: items)

/-- The program of the given items: its instructions with one more that halts, and its blocks. -/
def Program.ofItems (items : List Item) : Program :=
  ⟨items.filterMap Item.instruction? ++ [.halt], items.filterMap Item.block?⟩

theorem Splits.directive_eq {strict : Bool} {lines : List (List Text × Nat)} {items : List Item}
    (h : Splits strict lines items) {b : Block} (hb : b ∈ (Program.ofItems items).blocks) :
    b.directive = '.' :: b.name := by
  obtain ⟨item, hitem, hblock⟩ := List.mem_filterMap.mp hb
  induction h with
  | nil => cases hitem
  | cons hwritten _ ih =>
      rcases List.mem_cons.mp hitem with rfl | hitem
      · cases item with
        | instruction i => cases hblock
        | block c =>
            cases hblock
            exact hwritten.directive_eq
      · exact ih (List.mem_filterMap.mpr ⟨item, hitem, hblock⟩) hitem

theorem nodup_directives_iff {bs : List Block} (h : ∀ b ∈ bs, b.directive = '.' :: b.name) :
    (bs.map Block.directive).Nodup ↔ (bs.map Block.name).Nodup := by
  have hmap : bs.map Block.directive = (bs.map Block.name).map ('.' :: ·) := by
    rw [List.map_map]
    exact List.map_congr_left h
  rw [hmap]
  exact List.nodup_map_iff fun _ _ heq => List.tail_eq_of_cons_eq heq

namespace Assembly

/-- What a line does between items: from the block that is open before it, if any, to the items that
it finishes and the block that is open after it. -/
inductive Moves (strict : Bool) :
    Option Block → List Text × Nat → List Item → Option Block → Prop
  | instruction {line : List Text × Nat} {i : Instruction} (hspelled : Spelled strict line.1 i) :
      Moves strict none line [.instruction i] none
  | opened {line : List Text × Nat} {directive : Text} (hopens : Opens line.1 directive) :
      Moves strict none line [] (some ⟨directive.tail, directive, line.2, []⟩)
  | body {line : List Text × Nat} {b : Block} {i : Instruction}
      (hspelled : Spelled strict line.1 i) :
      Moves strict (some b) line [] (some { b with instructions := b.instructions ++ [i] })
  | closed {line : List Text × Nat} {b : Block} (hend : IsEnd line.1) :
      Moves strict (some b) line [.block b] none

/-- Lines from an open block, if there is one, to the end of a program, with the items that they
finish. -/
inductive Completes (strict : Bool) : Option Block → List (List Text × Nat) → List Item → Prop
  | nil : Completes strict none [] []
  | cons {opened opened' : Option Block} {line : List Text × Nat}
      {lines : List (List Text × Nat)} {new items : List Item}
      (hmoves : Moves strict opened line new opened')
      (hrest : Completes strict opened' lines items) :
      Completes strict opened (line :: lines) (new ++ items)

namespace Completes

variable {strict : Bool} {lines : List (List Text × Nat)} {items : List Item} {b : Block}

theorem of_body {body : List (List Text × Nat)} {is : List Instruction}
    (hbody : List.Forall₂ (fun line i => Spelled strict line.1 i) body is)
    (hrest : Completes strict (some { b with instructions := b.instructions ++ is }) lines items) :
    Completes strict (some b) (body ++ lines) items := by
  induction hbody generalizing b with
  | nil => simpa using hrest
  | cons hspelled _ ih =>
      refine .cons (.body hspelled) (ih ?_)
      simpa using hrest

theorem of_splits (h : Splits strict lines items) : Completes strict none lines items := by
  induction h with
  | nil => exact .nil
  | cons hwritten _ ih =>
      cases hwritten with
      | instruction hspelled => exact .cons (.instruction hspelled) ih
      | block hopens hbody hend =>
          rw [List.cons_append, List.append_assoc, List.singleton_append]
          exact .cons (.opened hopens) (of_body hbody (.cons (.closed hend) ih))

theorem splits {opened : Option Block} (h : Completes strict opened lines items) :
    match opened with
    | none => Splits strict lines items
    | some b => ∃ body is last rest items', lines = body ++ last :: rest ∧
        items = .block { b with instructions := b.instructions ++ is } :: items' ∧
        List.Forall₂ (fun line i => Spelled strict line.1 i) body is ∧ IsEnd last.1 ∧
        Splits strict rest items' := by
  -- the induction hypothesis speaks of a block or of items, as the line leaves a block open or not
  induction h with
  | nil => exact .nil
  | @cons _ _ line lines _ items hmoves _ ih =>
      cases hmoves with
      | instruction hspelled => exact .cons (.instruction hspelled) ih
      | opened hopens =>
          obtain ⟨body, is, last, rest, items', rfl, rfl, hbody, hend, hrest⟩ := ih
          simpa using Splits.cons (.block hopens hbody hend) hrest
      | @body _ b i hspelled =>
          obtain ⟨body, is, last, rest, items', rfl, rfl, hbody, hend, hrest⟩ := ih
          refine ⟨line :: body, i :: is, last, rest, items', rfl, ?_, .cons hspelled hbody, hend,
            hrest⟩
          simp
      | @closed _ b hend =>
          refine ⟨[], [], line, lines, items, rfl, ?_, .nil, hend, ih⟩
          simp

theorem name_mem {opened : Option Block} (h : Completes strict opened lines items)
    (hopened : opened = some b) : b.name ∈ (items.filterMap Item.block?).map Block.name := by
  subst hopened
  obtain ⟨body, is, last, rest, items', -, rfl, -⟩ := h.splits
  exact List.mem_cons_self

end Completes

namespace Draft

variable {flags : AssemblyFlags} {n : Nat} {d d' e : Draft} {tokens : List Text}
  {ls : List Text} {items : List Item}

/-- The open block, with the instructions that have been read. -/
def current (d : Draft) : Option Block :=
  d.opened.map fun b => { b with instructions := d.body.toList }

theorem current_of_opened {b : Block} (h : d.opened = some b) :
    d.current = some { b with instructions := d.body.toList } := by
  rw [current, h]
  rfl

theorem current_eq_none : d.current = none ↔ d.opened = none := Option.map_eq_none_iff

/-- Outside blocks no instructions are kept for one, and an open block has a name of its own. -/
structure Sound (d : Draft) : Prop where
  idle : d.opened = none → d.body = #[]
  fresh : ∀ b, d.opened = some b → b.name ∉ d.blocks.map Block.name

theorem sound_start (flags : AssemblyFlags) (source : Text) : (start flags source).Sound := by
  constructor
  · intro _
    rw [start, note_body]
  · intro b hb
    rw [start, note_opened] at hb
    cases hb

theorem Lined.sound (h : Lined flags n d tokens d' none) (hd : d.Sound) : d'.Sound := by
  cases h with
  | blank => exact hd
  | closed hend hopened =>
      obtain ⟨-, -, hclosed, hbody⟩ := close_of_opened hopened (hd.fresh _ hopened) flags
      refine ⟨fun _ => hbody, ?_⟩
      intro b hb
      rw [hclosed] at hb
      cases hb
  | opened hopens hopened hfresh =>
      refine ⟨nofun, ?_⟩
      intro b hb
      cases hb
      exact hfresh
  | added hspelled =>
      cases hopened : d.opened with
      | none =>
          rw [add_of_idle hopened]
          exact ⟨hd.idle, hd.fresh⟩
      | some b =>
          rw [add_of_opened hopened]
          refine ⟨?_, hd.fresh⟩
          intro hnone
          rw [hopened] at hnone
          cases hnone

theorem sound_of_lines (hd : d.Sound) (h : Draft.lines flags n ls d = (d', none)) : d'.Sound := by
  induction ls generalizing n d with
  | nil =>
      cases h
      exact hd
  | cons text ls ih =>
      obtain ⟨d₁, hlined, h⟩ := lines_cons_eq_none.mp h
      exact ih (hlined.sound hd) h

/-- The second draft has the given items more than the first. -/
structure Grows (d d' : Draft) (items : List Item) : Prop where
  instructions :
    d'.instructions.toList = d.instructions.toList ++ items.filterMap Item.instruction?
  blocks : d'.blocks = d.blocks ++ items.filterMap Item.block?

theorem Grows.of_eq (hinstructions : d'.instructions = d.instructions)
    (hblocks : d'.blocks = d.blocks) : d.Grows d' [] := by
  constructor
  · rw [hinstructions]
    exact (List.append_nil _).symm
  · rw [hblocks]
    exact (List.append_nil _).symm

theorem Grows.trans {items' : List Item} (h : d.Grows d' items) (h' : d'.Grows e items') :
    d.Grows e (items ++ items') := by
  constructor
  · rw [h'.instructions, h.instructions, List.filterMap_append, List.append_assoc]
  · rw [h'.blocks, h.blocks, List.filterMap_append, List.append_assoc]

theorem Sound.grows_close (hd : d.Sound) {b : Block} (hopened : d.opened = some b)
    (flags : AssemblyFlags) :
    (d.close flags).1.current = none ∧
      d.Grows (d.close flags).1 [.block { b with instructions := d.body.toList }] := by
  obtain ⟨hinstructions, hblocks, hclosed, -⟩ :=
    close_of_opened hopened (hd.fresh b hopened) flags
  refine ⟨current_eq_none.mpr hclosed, ?_, hblocks⟩
  rw [hinstructions]
  exact (List.append_nil _).symm

theorem Sound.grows_open (hd : d.Sound) (hopened : d.opened = none) (n : Nat) (directive : Text) :
    let d' : Draft := { d with opened := some ⟨directive.tail, directive, n, []⟩ }
    d'.current = some ⟨directive.tail, directive, n, []⟩ ∧ d.Grows d' [] := by
  refine ⟨?_, .of_eq rfl rfl⟩
  rw [current, hd.idle hopened]
  rfl

theorem grows_add_of_idle (hopened : d.opened = none) (n : Nat) (i : Instruction) :
    (d.add n i).current = none ∧ d.Grows (d.add n i) [.instruction i] := by
  rw [add_of_idle hopened]
  exact ⟨current_eq_none.mpr hopened, Array.toList_push, (List.append_nil _).symm⟩

theorem grows_add_of_opened {b : Block} (hopened : d.opened = some b) (n : Nat)
    (i : Instruction) :
    (d.add n i).current = some { b with instructions := d.body.toList ++ [i] } ∧
      d.Grows (d.add n i) [] := by
  rw [add_of_opened hopened]
  refine ⟨?_, .of_eq rfl rfl⟩
  rw [current, hopened, Option.map_some, Array.toList_push]

theorem Lined.moves (h : Lined flags n d tokens d' none) (hd : d.Sound) (hne : tokens ≠ []) :
    ∃ new, Moves flags.strict d.current (tokens, n) new d'.current ∧ d.Grows d' new := by
  cases h with
  | blank => exact absurd rfl hne
  | closed hend hopened =>
      obtain ⟨hcurrent, hgrows⟩ := hd.grows_close hopened flags
      rw [current_of_opened hopened, hcurrent]
      exact ⟨_, .closed hend, hgrows⟩
  | @opened _ directive hopens hopened _ =>
      obtain ⟨hcurrent, hgrows⟩ := hd.grows_open hopened n directive
      rw [current_eq_none.mpr hopened, hcurrent]
      exact ⟨_, .opened hopens, hgrows⟩
  | @added _ i hspelled =>
      cases hopened : d.opened with
      | none =>
          obtain ⟨hcurrent, hgrows⟩ := grows_add_of_idle hopened n i
          rw [current_eq_none.mpr hopened, hcurrent]
          exact ⟨_, .instruction hspelled, hgrows⟩
      | some b =>
          obtain ⟨hcurrent, hgrows⟩ := grows_add_of_opened hopened n i
          rw [current_of_opened hopened, hcurrent]
          exact ⟨_, .body hspelled, hgrows⟩

/-- A line that moves on in the grammar is read without a fault, unless it opens a block of a name
that is taken. -/
theorem lined_of_moves {new : List Item} {opened : Option Block}
    (h : Moves flags.strict d.current (tokens, n) new opened) (hd : d.Sound)
    (hfresh : ∀ b, opened = some b → b.name ∉ d.blocks.map Block.name) :
    ∃ d', Lined flags n d tokens d' none ∧ d'.current = opened ∧ d.Grows d' new := by
  cases hopened : d.opened with
  | none =>
      rw [current_eq_none.mpr hopened] at h
      cases h with
      | @instruction _ i hspelled => exact ⟨_, .added hspelled, grows_add_of_idle hopened n i⟩
      | @opened _ directive hopens =>
          exact ⟨_, .opened hopens hopened (hfresh _ rfl), hd.grows_open hopened n directive⟩
  | some b =>
      rw [current_of_opened hopened] at h
      cases h with
      | @body _ _ i hspelled => exact ⟨_, .added hspelled, grows_add_of_opened hopened n i⟩
      | closed hend => exact ⟨_, .closed hend hopened, hd.grows_close hopened flags⟩

/-- Lines that are read without a fault to the end of a program complete what is open. -/
theorem completes_of_lines (hd : d.Sound) (h : Draft.lines flags n ls d = (d', none))
    (hclosed : d'.opened = none) :
    ∃ items, Completes flags.strict d.current (numbered n (ls.map tokensOfLine)) items ∧
      d.Grows d' items := by
  induction ls generalizing n d with
  | nil =>
      cases h
      rw [current_eq_none.mpr hclosed]
      exact ⟨[], .nil, .of_eq rfl rfl⟩
  | cons text ls ih =>
      obtain ⟨d₁, hlined, h⟩ := lines_cons_eq_none.mp h
      obtain ⟨items, hrest, hgrows⟩ := ih (hlined.sound hd) h
      rw [List.map_cons]
      by_cases hblank : tokensOfLine text = []
      · rw [hblank] at hlined
        cases hlined.line_eq
        rw [hblank, numbered_blank]
        exact ⟨items, hrest, hgrows⟩
      · obtain ⟨new, hmoves, hgrows₁⟩ := hlined.moves hd hblank
        rw [numbered_cons hblank]
        exact ⟨new ++ items, .cons hmoves hrest, hgrows₁.trans hgrows⟩

/-- Lines that complete what is open are read without a fault, if all blocks have different
names. -/
theorem lines_of_completes (hd : d.Sound)
    (h : Completes flags.strict d.current (numbered n (ls.map tokensOfLine)) items)
    (hnames : ((d.blocks ++ items.filterMap Item.block?).map Block.name).Nodup) :
    ∃ d', Draft.lines flags n ls d = (d', none) ∧ d'.opened = none ∧ d.Grows d' items := by
  induction ls generalizing n d items with
  | nil =>
      rw [List.map_nil, numbered_nil] at h
      generalize hcurrent : d.current = current at h
      cases h
      exact ⟨d, rfl, current_eq_none.mp hcurrent, .of_eq rfl rfl⟩
  | cons text ls ih =>
      rw [List.map_cons] at h
      by_cases hblank : tokensOfLine text = []
      · have hlined : Lined flags n d (tokensOfLine text) d none := by
          rw [hblank]
          exact .blank
        rw [hblank, numbered_blank] at h
        rw [hlined.lines_cons]
        exact ih hd h hnames
      · rw [numbered_cons hblank] at h
        generalize hcurrent : d.current = current at h
        cases h with
        | @cons _ opened _ _ new items hmoves hrest =>
            rw [← hcurrent] at hmoves
            -- a block that this line opens is among those that the rest of the lines finishes
            have hfresh : ∀ b, opened = some b → b.name ∉ d.blocks.map Block.name := by
              intro b hb hmem
              rw [List.map_append, List.filterMap_append, List.map_append] at hnames
              have hname := List.mem_append_right ((new.filterMap Item.block?).map Block.name)
                (hrest.name_mem hb)
              exact (List.nodup_append.mp hnames).2.2 _ hmem _ hname rfl
            obtain ⟨d₁, hlined, hopened, hgrows₁⟩ := lined_of_moves hmoves hd hfresh
            rw [← hopened] at hrest
            have hnames₁ :
                ((d₁.blocks ++ items.filterMap Item.block?).map Block.name).Nodup := by
              rwa [hgrows₁.blocks, List.append_assoc, ← List.filterMap_append]
            obtain ⟨d', hlines, hclosed, hgrows⟩ := ih (hlined.sound hd) hrest hnames₁
            exact ⟨d', (hlined.lines_cons ls).trans hlines, hclosed, hgrows₁.trans hgrows⟩

theorem Grows.program_eq {source : Text} (h : (start flags source).Grows d items) :
    d.program = Program.ofItems items := by
  have hinstructions := h.instructions
  have hblocks := h.blocks
  rw [start, note_instructions] at hinstructions
  rw [start, note_blocks] at hblocks
  rw [Draft.program, Program.ofItems, hinstructions, hblocks]
  rfl

end Draft

end Assembly

/-- A source text assembles to a program if and only if its lines split into items with different
directives and the program consists of these items. -/
theorem assemble_eq_ok_iff_splits (flags : AssemblyFlags) (source : Text) (p : Program) :
    (assemble flags source).result = .ok p ↔
      ∃ items, Splits flags.strict (codeLines source) items ∧
        ((Program.ofItems items).blocks.map Block.directive).Nodup ∧
        p = Program.ofItems items := by
  have hstart := Draft.sound_start flags source
  have hcurrent : (Draft.start flags source).current = none := by
    rw [Draft.current_eq_none, Draft.start, Draft.note_opened]
  constructor
  · intro h
    have hnames := (Program.wellFormed_of_assemble h).names
    obtain ⟨d, hlines, hclosed, rfl⟩ := assemble_eq_ok_iff.mp h
    obtain ⟨items, hcompletes, hgrows⟩ := Draft.completes_of_lines hstart hlines hclosed
    rw [hcurrent] at hcompletes
    have hsplits : Splits flags.strict (codeLines source) items := hcompletes.splits
    rw [hgrows.program_eq] at hnames ⊢
    exact ⟨items, hsplits, (nodup_directives_iff fun b hb => hsplits.directive_eq hb).mpr hnames,
      rfl⟩
  · rintro ⟨items, hsplits, hdirectives, rfl⟩
    have hnames := (nodup_directives_iff fun b hb => hsplits.directive_eq hb).mp hdirectives
    have hcompletes := Completes.of_splits hsplits
    rw [← hcurrent] at hcompletes
    obtain ⟨d, hlines, hclosed, hgrows⟩ := Draft.lines_of_completes hstart hcompletes (by
      rw [Draft.start, Draft.note_blocks]
      exact hnames)
    exact assemble_eq_ok_iff.mpr ⟨d, hlines, hclosed, hgrows.program_eq⟩

end LetterMachine
