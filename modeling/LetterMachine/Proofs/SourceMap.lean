import LetterMachine.Proofs.Grammar
import LetterMachine.Proofs.Listing

/-!
The entries of an assembled program. They put its instructions on the lines that these were decoded
from, block by block, and a listing shows each entry in a row of its own.
-/

namespace LetterMachine

open Assembly

/-- The entries that stand in a block, or outside all blocks. -/
def entriesIn (entries : List SourceEntry) (block : Option Text) : List SourceEntry :=
  entries.filter fun e => e.block == block

theorem mem_of_mem_entriesIn {entries : List SourceEntry} {block : Option Text} {e : SourceEntry}
    (he : e ∈ entriesIn entries block) : e ∈ entries := (List.mem_filter.mp he).1

theorem entriesIn_push (entries : List SourceEntry) (n : Nat) (block : Option Text)
    (i : Instruction) :
    entriesIn (entries ++ [⟨n, block, i⟩]) block = entriesIn entries block ++ [⟨n, block, i⟩] := by
  simp [entriesIn]

theorem entriesIn_push_of_ne {block other : Option Text} (h : block ≠ other)
    (entries : List SourceEntry) (n : Nat) (i : Instruction) :
    entriesIn (entries ++ [⟨n, block, i⟩]) other = entriesIn entries other := by
  simp [entriesIn, h]

/-- The entries are those of the lines of a text that was read as instructions to run and blocks.
The lines of a block lie between its own directive and the next one. -/
structure SourceMap (strict : Bool) (lines : List Text) (instructions : List Instruction)
    (blocks : List Block) (entries : List SourceEntry) : Prop where
  increasing : (entries.map SourceEntry.line).Pairwise (· < ·)
  decoded : ∀ e ∈ entries, ∃ text, lines[e.line]? = some text ∧
    Spelled strict (tokensOfLine text) e.instruction
  instructions_eq : (entriesIn entries none).map SourceEntry.instruction = instructions
  body_eq : ∀ b ∈ blocks,
    (entriesIn entries (some b.name)).map SourceEntry.instruction = b.instructions
  named : ∀ e ∈ entries, ∀ name, e.block = some name → name ∈ blocks.map Block.name
  opened : ∀ b ∈ blocks, ∃ text, lines[b.line]? = some text ∧
    Opens (tokensOfLine text) b.directive
  after : ∀ b ∈ blocks, ∀ e ∈ entriesIn entries (some b.name), b.line < e.line
  before : blocks.Pairwise fun b c =>
    b.line < c.line ∧ ∀ e ∈ entriesIn entries (some b.name), e.line < c.line

namespace SourceMap

variable {strict : Bool} {lines : List Text} {instructions : List Instruction}
  {blocks : List Block} {entries : List SourceEntry} {text : Text} {i : Instruction}

theorem nil (strict : Bool) (lines : List Text) : SourceMap strict lines [] [] [] where
  increasing := .nil
  decoded := List.forall_mem_nil _
  instructions_eq := rfl
  body_eq := List.forall_mem_nil _
  named := List.forall_mem_nil _
  opened := List.forall_mem_nil _
  after := List.forall_mem_nil _
  before := .nil

theorem line_lt (h : SourceMap strict lines instructions blocks entries) {e : SourceEntry}
    (he : e ∈ entries) : e.line < lines.length := by
  obtain ⟨text, hline, -⟩ := h.decoded e he
  exact (List.getElem?_eq_some_iff.mp hline).1

theorem block_line_lt (h : SourceMap strict lines instructions blocks entries) {b : Block}
    (hb : b ∈ blocks) : b.line < lines.length := by
  obtain ⟨text, hline, -⟩ := h.opened b hb
  exact (List.getElem?_eq_some_iff.mp hline).1

theorem push_line (h : SourceMap strict lines instructions blocks entries) (text : Text) :
    SourceMap strict (lines ++ [text]) instructions blocks entries where
  increasing := h.increasing
  decoded e he := by
    obtain ⟨text, hline, hspelled⟩ := h.decoded e he
    exact ⟨text, (List.getElem?_append_left (h.line_lt he)).trans hline, hspelled⟩
  instructions_eq := h.instructions_eq
  body_eq := h.body_eq
  named := h.named
  opened b hb := by
    obtain ⟨text, hline, hopens⟩ := h.opened b hb
    exact ⟨text, (List.getElem?_append_left (h.block_line_lt hb)).trans hline, hopens⟩
  after := h.after
  before := h.before

theorem push_block (h : SourceMap strict lines instructions blocks entries) {directive : Text}
    (hopens : Opens (tokensOfLine text) directive)
    (hfresh : directive.tail ∉ blocks.map Block.name) :
    SourceMap strict (lines ++ [text]) instructions
      (blocks ++ [⟨directive.tail, directive, lines.length, []⟩]) entries := by
  have hnone : entriesIn entries (some directive.tail) = [] := by
    apply List.filter_eq_nil_iff.mpr
    intro e he hname
    exact hfresh (h.named e he _ (beq_iff_eq.mp hname))
  have hnext := h.push_line text
  refine ⟨h.increasing, hnext.decoded, h.instructions_eq, forall_mem_push h.body_eq ?_, ?_,
    forall_mem_push hnext.opened ⟨text, List.getElem?_concat_length, hopens⟩,
    forall_mem_push h.after ?_, pairwise_push h.before ?_⟩
  · rw [hnone]
    rfl
  · intro e he name hname
    rw [List.map_append]
    exact List.mem_append_left _ (h.named e he name hname)
  · rw [hnone]
    exact List.forall_mem_nil _
  · intro b hb
    exact ⟨h.block_line_lt hb, fun e he => h.line_lt (mem_of_mem_entriesIn he)⟩

theorem increasing_push (h : SourceMap strict lines instructions blocks entries)
    (block : Option Text) (i : Instruction) :
    ((entries ++ [(⟨lines.length, block, i⟩ : SourceEntry)]).map SourceEntry.line).Pairwise
      (· < ·) := by
  rw [List.map_append]
  apply pairwise_push h.increasing
  intro n hn
  obtain ⟨e, he, rfl⟩ := List.mem_map.mp hn
  exact h.line_lt he

theorem decoded_push (h : SourceMap strict lines instructions blocks entries)
    (hspelled : Spelled strict (tokensOfLine text) i) (block : Option Text) :
    ∀ e ∈ entries ++ [⟨lines.length, block, i⟩], ∃ line, (lines ++ [text])[e.line]? = some line ∧
      Spelled strict (tokensOfLine line) e.instruction :=
  forall_mem_push (h.push_line text).decoded ⟨text, List.getElem?_concat_length, hspelled⟩

theorem push_instruction (h : SourceMap strict lines instructions blocks entries)
    (hspelled : Spelled strict (tokensOfLine text) i) :
    SourceMap strict (lines ++ [text]) (instructions ++ [i]) blocks
      (entries ++ [⟨lines.length, none, i⟩]) := by
  have hsame : ∀ b : Block, entriesIn (entries ++ [⟨lines.length, none, i⟩]) (some b.name) =
      entriesIn entries (some b.name) := fun b =>
    entriesIn_push_of_ne (Option.some_ne_none b.name).symm entries lines.length i
  refine ⟨h.increasing_push none i, h.decoded_push hspelled none, ?_, ?_,
    forall_mem_push h.named nofun, (h.push_line text).opened, ?_, ?_⟩
  · rw [entriesIn_push, List.map_append, h.instructions_eq]
    rfl
  · simpa only [hsame] using h.body_eq
  · simpa only [hsame] using h.after
  · simpa only [hsame] using h.before

theorem push_body {b : Block} (h : SourceMap strict lines instructions (blocks ++ [b]) entries)
    (hspelled : Spelled strict (tokensOfLine text) i) (hfresh : b.name ∉ blocks.map Block.name) :
    SourceMap strict (lines ++ [text]) instructions
      (blocks ++ [{ b with instructions := b.instructions ++ [i] }])
      (entries ++ [⟨lines.length, some b.name, i⟩]) := by
  have hlast : b ∈ blocks ++ [b] := List.mem_append_right blocks List.mem_cons_self
  have hfront : ∀ c ∈ blocks, c ∈ blocks ++ [b] := fun c hc => List.mem_append_left [b] hc
  have hsame : ∀ c ∈ blocks,
      entriesIn (entries ++ [⟨lines.length, some b.name, i⟩]) (some c.name) =
        entriesIn entries (some c.name) := by
    intro c hc
    apply entriesIn_push_of_ne
    intro hname
    exact hfresh (Option.some.inj hname ▸ List.mem_map_of_mem hc)
  have hnext := h.push_line text
  have hline : b.line < lines.length := h.block_line_lt hlast
  obtain ⟨hblocks, -, hlines⟩ := List.pairwise_append.mp h.before
  refine ⟨h.increasing_push _ i, h.decoded_push hspelled _, ?_, forall_mem_push ?_ ?_,
    forall_mem_push ?_ ?_, forall_mem_push ?_ (hnext.opened b hlast), forall_mem_push ?_ ?_,
    pairwise_push ?_ ?_⟩
  · rw [entriesIn_push_of_ne (Option.some_ne_none b.name), h.instructions_eq]
  · intro c hc
    rw [hsame c hc, h.body_eq c (hfront c hc)]
  · rw [entriesIn_push, List.map_append, h.body_eq b hlast]
    rfl
  · simpa using h.named
  · simp
  · exact fun c hc => hnext.opened c (hfront c hc)
  · intro c hc
    rw [hsame c hc]
    exact h.after c (hfront c hc)
  · rw [entriesIn_push]
    exact forall_mem_push (h.after b hlast) hline
  · apply hblocks.imp_of_mem
    intro c c' hc _
    rw [hsame c hc]
    exact id
  · intro c hc
    rw [hsame c hc]
    exact hlines c hc b List.mem_cons_self

end SourceMap

namespace Assembly.Draft

variable {flags : AssemblyFlags} {d d' : Draft} {text : Text} {front ls : List Text}

/-- The entries of the draft are those of the lines that have been read. An open block is the last
one. -/
def Maps (strict : Bool) (front : List Text) (d : Draft) : Prop :=
  SourceMap strict front d.instructions.toList (d.blocks ++ d.current.toList) d.entries.toList

theorem maps_of_idle {strict : Bool} (h : d.opened = none) : d.Maps strict front ↔
    SourceMap strict front d.instructions.toList d.blocks d.entries.toList := by
  rw [Maps, current_eq_none.mpr h, Option.toList_none, List.append_nil]

theorem maps_of_opened {strict : Bool} {b : Block} (h : d.opened = some b) :
    d.Maps strict front ↔ SourceMap strict front d.instructions.toList
      (d.blocks ++ [{ b with instructions := d.body.toList }]) d.entries.toList := by
  rw [Maps, current_of_opened h, Option.toList_some]

theorem add_opened (d : Draft) (n : Nat) (i : Instruction) : (d.add n i).opened = d.opened := by
  unfold Draft.add
  split <;> rfl

theorem maps_start (flags : AssemblyFlags) (source : Text) :
    (start flags source).Maps flags.strict [] := by
  have hopened : (start flags source).opened = none := by rw [start, note_opened]
  rw [maps_of_idle hopened, start, note_instructions, note_blocks, note_entries]
  exact .nil flags.strict []

theorem Maps.close {b : Block} (h : d.Maps flags.strict front) (hd : d.Sound)
    (hopened : d.opened = some b) (text : Text) :
    (d.close flags).1.Maps flags.strict (front ++ [text]) := by
  obtain ⟨hinstructions, hblocks, hclosed, -⟩ := close_of_opened hopened (hd.fresh b hopened) flags
  rw [maps_of_opened hopened] at h
  rw [maps_of_idle hclosed, hinstructions, hblocks, close_entries]
  exact h.push_line text

theorem Maps.openBlock {directive : Text} (h : d.Maps flags.strict front) (hd : d.Sound)
    (hopens : Opens (tokensOfLine text) directive) (hopened : d.opened = none)
    (hfresh : directive.tail ∉ d.blocks.map Block.name) :
    Maps flags.strict (front ++ [text])
      { d with opened := some ⟨directive.tail, directive, front.length, []⟩ } := by
  rw [maps_of_idle hopened] at h
  rw [maps_of_opened rfl, hd.idle hopened]
  exact h.push_block hopens hfresh

theorem Maps.add {i : Instruction} (h : d.Maps flags.strict front) (hd : d.Sound)
    (hspelled : Spelled flags.strict (tokensOfLine text) i) :
    (d.add front.length i).Maps flags.strict (front ++ [text]) := by
  have hnext : (d.add front.length i).opened = d.opened := add_opened d front.length i
  cases hopened : d.opened with
  | none =>
      rw [maps_of_idle hopened] at h
      rw [maps_of_idle (hnext.trans hopened), add_of_idle hopened, Array.toList_push,
        Array.toList_push]
      exact h.push_instruction hspelled
  | some b =>
      rw [maps_of_opened hopened] at h
      rw [maps_of_opened (hnext.trans hopened), add_of_opened hopened, Array.toList_push,
        Array.toList_push]
      exact h.push_body hspelled (hd.fresh b hopened)

theorem Lined.maps (h : Lined flags front.length d (tokensOfLine text) d' none) (hd : d.Sound)
    (hmaps : d.Maps flags.strict front) : d'.Maps flags.strict (front ++ [text]) := by
  -- a blank line is one of no tokens, so that the tokens have to be a variable for the case split
  generalize htokens : tokensOfLine text = tokens at h
  cases h with
  | blank => exact hmaps.push_line text
  | closed _ hopened => exact hmaps.close hd hopened text
  | opened hopens hopened hfresh => exact hmaps.openBlock hd (htokens ▸ hopens) hopened hfresh
  | added hspelled => exact hmaps.add hd (htokens ▸ hspelled)

theorem maps_of_lines (hd : d.Sound) (hmaps : d.Maps flags.strict front)
    (h : Draft.lines flags front.length ls d = (d', none)) :
    d'.Maps flags.strict (front ++ ls) := by
  have hkept : d'.Sound ∧ d'.Maps flags.strict (front ++ ls) := by
    refine lines_invariant (P := fun front d => d.Sound ∧ d.Maps flags.strict front)
      ?_ ⟨hd, hmaps⟩ h
    rintro front text d d' ⟨hd, hmaps⟩ hlined
    exact ⟨hlined.sound hd, hlined.maps hd hmaps⟩
  exact hkept.2

end Assembly.Draft

theorem SourceMap.of_assemble {flags : AssemblyFlags} {source : Text} {p : Program}
    (h : (assemble flags source).result = .ok p) :
    ∃ globals, p.instructions = globals ++ [.halt] ∧
      SourceMap flags.strict source.lines globals p.blocks (assemble flags source).entries := by
  obtain ⟨d, hlines, hclosed, rfl⟩ := assemble_eq_ok_iff.mp h
  have hmaps : d.Maps flags.strict ([] ++ source.lines) :=
    Draft.maps_of_lines (Draft.sound_start flags source) (Draft.maps_start flags source) hlines
  rw [Draft.maps_of_idle hclosed] at hmaps
  rw [assemble_entries, hlines]
  exact ⟨d.instructions.toList, rfl, hmaps⟩

namespace Listing

/-- The rows of entries, each with the line of its own entry. -/
def entryRows (entries : List SourceEntry) : List Text :=
  entries.mapIdx fun n e => row n (Text.ofNat e.line) e.instruction

def heading (b : Block) : Text :=
  b.directive ++ "  (line ".toList ++ Text.ofNat b.line ++ [')']

/-- The rows of a listing in which every instruction but the last one has an entry. -/
def mappedRows (blocks : List Block) (entries : List SourceEntry) : List Text :=
  "Index  Line  Instruction".toList :: List.replicate 40 '-' ::
    (entryRows (entriesIn entries none) ++
      row (entriesIn entries none).length ['-'] .halt ::
        blocks.flatMap fun b =>
          [] :: heading b :: entryRows (entriesIn entries (some b.name)))

theorem zip_entries (entries : List SourceEntry) :
    ((entries.map SourceEntry.line).map Text.ofNat).zip (entries.map SourceEntry.instruction) =
      entries.map fun e => (Text.ofNat e.line, e.instruction) := by
  rw [List.map_map, List.zip_map']
  rfl

theorem mapIdx_entries (entries : List SourceEntry) :
    ((entries.map fun e => (Text.ofNat e.line, e.instruction)).mapIdx
      fun n (line, i) => row n line i) = entryRows entries := by
  apply List.ext_getElem
  · simp [entryRows]
  · intro n _ _
    simp [entryRows]

theorem globalRows_entries (entries : List SourceEntry) :
    globalRows (entries.map SourceEntry.line) (entries.map SourceEntry.instruction ++ [.halt]) =
      entryRows entries ++ [row entries.length ['-'] .halt] := by
  have hlength : ((entries.map SourceEntry.line).map Text.ofNat).length =
      (entries.map SourceEntry.instruction).length := by simp
  rw [globalRows, rowsBeside, List.zip_append hlength, zip_entries, List.length_append,
    List.length_singleton, List.replicate_succ, List.zip_cons_cons, List.zip_nil_right,
    List.mapIdx_concat, mapIdx_entries, List.length_map]

theorem blockRows_entries {entries : List SourceEntry} {b : Block}
    (h : entries.map SourceEntry.instruction = b.instructions) :
    blockRows (entries.map SourceEntry.line) b = [] :: heading b :: entryRows entries := by
  rw [blockRows, rowsBeside, ← h, zip_entries, mapIdx_entries, heading]

theorem rows_eq_mappedRows {strict : Bool} {lines : List Text} {globals : List Instruction}
    {p : Program} {entries : List SourceEntry} (hp : p.instructions = globals ++ [.halt])
    (h : SourceMap strict lines globals p.blocks entries) :
    rows p entries = mappedRows p.blocks entries := by
  have hglobal : globalRows (linesIn entries none) p.instructions =
      entryRows (entriesIn entries none) ++ [row (entriesIn entries none).length ['-'] .halt] := by
    rw [hp, ← h.instructions_eq]
    exact globalRows_entries (entriesIn entries none)
  have hblocks : (p.blocks.flatMap fun b => blockRows (linesIn entries (some b.name)) b) =
      p.blocks.flatMap fun b =>
        [] :: heading b :: entryRows (entriesIn entries (some b.name)) :=
    List.flatMap_congr fun b hb => blockRows_entries (h.body_eq b hb)
  rw [rows, hglobal, hblocks, List.append_assoc]
  rfl

end Listing

open Listing in
/-- After an assembly the entries are those of the text just read, whatever was on the workbench
before, and the listing has one row for every instruction. -/
theorem Workbench.listing_of_assembled (w : Workbench) {source : Text} {p : Program}
    (h : (LetterMachine.assemble w.flags source).result = .ok p) :
    let after := (w.assemble source).2
    after.program = some p ∧
      (∃ globals, p.instructions = globals ++ [.halt] ∧
        SourceMap w.flags.strict source.lines globals p.blocks after.entries) ∧
      after.listing = ['\n'].intercalate (mappedRows p.blocks after.entries) := by
  intro after
  have hprogram : after.program = some p := by
    simp only [after, Workbench.assemble, keep, h]
  obtain ⟨globals, hp, hmap⟩ := SourceMap.of_assemble h
  refine ⟨hprogram, ⟨globals, hp, hmap⟩, ?_⟩
  have hlisting : after.listing = render p after.entries := by rw [listing, hprogram]
  rw [hlisting, render]
  exact congrArg _ (rows_eq_mappedRows hp hmap)

theorem Workbench.listing_of_assembled_nameless :
    let before := after {} ["INC a".toList, "PRINT b\nFOO".toList]
    let source : Text := "INC a\n.\nDEC b\n.end\nPRINT a\n.f\n.end".toList
    let p : Program := ⟨[⟨.inc, 0, 0⟩, ⟨.print, 0, 0⟩, .halt],
      [⟨[], ['.'], 1, [⟨.dec, 1, 0⟩]⟩, ⟨['f'], ".f".toList, 5, []⟩]⟩
    (LetterMachine.assemble before.flags source).result = .ok p ∧
      (before.assemble source).2.listing = ['\n'].intercalate
        ["Index  Line  Instruction".toList, List.replicate 40 '-',
          "    0     0  INC(0)".toList, "    1     4  PRINT(0)".toList, "    2     -  HALT".toList,
          [], ".  (line 1)".toList, "    0     2  DEC(1)".toList, [], ".f  (line 5)".toList] := by
  intro before source p
  have hp : (LetterMachine.assemble before.flags source).result = .ok p := by rfl
  refine ⟨hp, (listing_of_assembled before hp).2.2.trans ?_⟩
  decide +kernel

end LetterMachine
