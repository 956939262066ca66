import LetterMachine.Proofs.Grammar
import LetterMachine.Proofs.Lines

/-!
Source texts one after another. The lines of the second are read as they are read alone, only with
larger numbers, as long as they open no block of a name that the first has given away.
-/

namespace LetterMachine

/-- The block with its directive `k` lines further down. -/
def Block.shift (k : Nat) (b : Block) : Block := { b with line := b.line + k }

def SourceEntry.shift (k : Nat) (e : SourceEntry) : SourceEntry := { e with line := e.line + k }

def AssemblyFault.shift (k : Nat) (f : AssemblyFault) : AssemblyFault :=
  { f with line := f.line + k }

@[simp]
theorem Block.shift_zero : Block.shift 0 = id := rfl

@[simp]
theorem SourceEntry.shift_zero : SourceEntry.shift 0 = id := rfl

theorem map_name_shift (k : Nat) (bs : List Block) :
    (bs.map (Block.shift k)).map Block.name = bs.map Block.name := by
  rw [List.map_map]
  rfl

namespace Assembly.Draft

variable {flags flags' : AssemblyFlags} {n k : Nat} {base d d' e e' : Draft} {tokens : List Text}
  {ls : List Text} {fault : Option LineFault}

/-- The draft `e` holds what `base` holds and then what `d` holds, `k` lines further down. -/
structure Stacked (base : Draft) (k : Nat) (d e : Draft) : Prop where
  instructions : e.instructions.toList = base.instructions.toList ++ d.instructions.toList
  blocks : e.blocks = base.blocks ++ d.blocks.map (Block.shift k)
  opened : e.opened = d.opened.map (Block.shift k)
  body : e.body = d.body
  entries : e.entries.toList = base.entries.toList ++ d.entries.toList.map (SourceEntry.shift k)

/-- Before the first line, drafts differ in their notes at most. -/
theorem stacked_start (flags flags' : AssemblyFlags) (source source' : Text) :
    Stacked {} 0 (start flags source) (start flags' source') where
  instructions := by simp [start]
  blocks := by simp [start]
  opened := by simp [start]
  body := by simp [start]
  entries := by simp [start]

theorem Sound.stacked_start (hd : d.Sound) (hopened : d.opened = none) (flags : AssemblyFlags)
    (source : Text) (k : Nat) : Stacked d k (start flags source) d where
  instructions := by simp [start]
  blocks := by simp [start]
  opened := by simp [start, hopened]
  body := by simp [start, hd.idle hopened]
  entries := by simp [start]

namespace Stacked

theorem names (h : Stacked base k d e) :
    e.blocks.map Block.name = base.blocks.map Block.name ++ d.blocks.map Block.name := by
  rw [h.blocks, List.map_append, map_name_shift]

theorem opened_eq_none (h : Stacked base k d e) : e.opened = none ↔ d.opened = none := by
  rw [h.opened, Option.map_eq_none_iff]

theorem opened_eq_some (h : Stacked base k d e) {b : Block} (hopened : d.opened = some b) :
    e.opened = some (b.shift k) := by
  rw [h.opened, hopened]
  rfl

theorem sound (h : Stacked base k d e) (he : e.Sound) : d.Sound := by
  constructor
  · intro hopened
    rw [← h.body]
    exact he.idle (h.opened_eq_none.mpr hopened)
  · intro b hopened hmem
    refine he.fresh _ (h.opened_eq_some hopened) ?_
    rw [h.names]
    exact List.mem_append_right _ hmem

theorem close (h : Stacked base k d e) (he : e.Sound) {b : Block} (hopened : d.opened = some b)
    (flags flags' : AssemblyFlags) : Stacked base k (d.close flags).1 (e.close flags').1 := by
  have hopened' := h.opened_eq_some hopened
  obtain ⟨hinstructions, hblocks, hnone, hbody⟩ :=
    close_of_opened hopened ((h.sound he).fresh b hopened) flags
  obtain ⟨hinstructions', hblocks', hnone', hbody'⟩ :=
    close_of_opened hopened' (he.fresh _ hopened') flags'
  refine ⟨?_, ?_, ?_, ?_, ?_⟩
  · rw [hinstructions, hinstructions', h.instructions]
  · rw [hblocks, hblocks', h.blocks, h.body, List.map_append, List.append_assoc]
    rfl
  · rw [hnone, hnone']
    rfl
  · rw [hbody, hbody']
  · rw [close_entries, close_entries, h.entries]

theorem add (h : Stacked base k d e) (n : Nat) (i : Instruction) :
    Stacked base k (d.add n i) (e.add (n + k) i) := by
  cases hopened : d.opened with
  | none =>
      rw [add_of_idle hopened, add_of_idle (h.opened_eq_none.mpr hopened)]
      refine ⟨?_, h.blocks, ?_, h.body, ?_⟩
      · simp [h.instructions]
      · exact h.opened
      · simp [h.entries, SourceEntry.shift]
  | some b =>
      rw [add_of_opened hopened, add_of_opened (h.opened_eq_some hopened)]
      refine ⟨h.instructions, h.blocks, ?_, ?_, ?_⟩
      · exact h.opened
      · simp [h.body]
      · simp [h.entries, SourceEntry.shift, Block.shift]

/-- A line is read in the same way further down, unless it opens a block of a name that is taken
there. -/
theorem lined (h : Stacked base k d e) (he : e.Sound) (hstrict : flags'.strict = flags.strict)
    (hlined : Lined flags n d tokens d' fault)
    (hfresh : ∀ directive, Opens tokens directive →
      directive.tail ∉ base.blocks.map Block.name) :
    ∃ e', Lined flags' (n + k) e tokens e' fault ∧ Stacked base k d' e' := by
  cases hlined with
  | blank => exact ⟨e, .blank, h⟩
  | closed hend hopened =>
      exact ⟨_, .closed hend (h.opened_eq_some hopened), h.close he hopened flags flags'⟩
  | endWithoutBlock hend hopened =>
      exact ⟨e, .endWithoutBlock hend (h.opened_eq_none.mpr hopened), h⟩
  | @opened _ directive hopens hopened hname =>
      refine ⟨_, .opened hopens (h.opened_eq_none.mpr hopened) ?_, ?_⟩
      · rw [h.names, List.mem_append, not_or]
        exact ⟨hfresh directive hopens, hname⟩
      · exact ⟨h.instructions, h.blocks, rfl, h.body, h.entries⟩
  | duplicate hopens hopened hname =>
      refine ⟨e, .duplicate hopens (h.opened_eq_none.mpr hopened) ?_, h⟩
      rw [h.names]
      exact List.mem_append_right _ hname
  | @nested _ _ b hopens hopened =>
      exact ⟨e, .nested (b := b.shift k) hopens (h.opened_eq_some hopened), h⟩
  | added hspelled =>
      rw [← hstrict] at hspelled
      exact ⟨_, .added hspelled, h.add n _⟩
  | undecodable hplain hfault =>
      rw [← hstrict] at hfault
      exact ⟨e, .undecodable hplain hfault, h⟩

theorem lines (h : Stacked base k d e) (he : e.Sound) (hstrict : flags'.strict = flags.strict)
    {fault : Option AssemblyFault} (hlines : Draft.lines flags n ls d = (d', fault))
    (hfresh : ∀ text ∈ ls, ∀ directive, Opens (tokensOfLine text) directive →
      directive.tail ∉ base.blocks.map Block.name) :
    ∃ e', Draft.lines flags' (n + k) ls e = (e', fault.map (AssemblyFault.shift k)) ∧
      Stacked base k d' e' := by
  induction ls generalizing n d e with
  | nil =>
      cases hlines
      exact ⟨e, rfl, h⟩
  | cons text ls ih =>
      have hlined := lined_line flags n d (tokensOfLine text)
      rw [Draft.lines] at hlines
      rcases hline : d.line flags n (tokensOfLine text) with ⟨d₁, _ | fault⟩
      · rw [hline] at hlines hlined
        obtain ⟨e₁, hlined₁, h₁⟩ := h.lined he hstrict hlined (hfresh text List.mem_cons_self)
        obtain ⟨e', hlines', h'⟩ := ih h₁ (hlined₁.sound he) hlines fun text' htext' =>
          hfresh text' (List.mem_cons_of_mem text htext')
        refine ⟨e', ?_, h'⟩
        rw [hlined₁.lines_cons, Nat.add_right_comm]
        exact hlines'
      · rw [hline] at hlines hlined
        cases hlines
        obtain ⟨e₁, hlined₁, h₁⟩ := h.lined he hstrict hlined (hfresh text List.mem_cons_self)
        refine ⟨e₁, ?_, h₁⟩
        rw [Draft.lines, hlined₁.line_eq]
        rfl

end Stacked

theorem lines_start {source : Text} {fault : Option AssemblyFault}
    (h : Draft.lines flags 0 ls (start flags source) = (d, fault)) (source' : Text) :
    ∃ e, Draft.lines flags 0 ls (start flags source') = (e, fault) ∧ Stacked {} 0 d e := by
  have hsound := sound_start flags source'
  obtain ⟨e, hlines, he⟩ := (stacked_start flags flags source source').lines hsound rfl h
    fun _ _ _ _ => List.not_mem_nil
  refine ⟨e, ?_, he⟩
  rw [hlines]
  cases fault <;> rfl

theorem lines_split {ls' : List Text}
    (h : Draft.lines flags n (ls ++ ls') d = (d', none)) :
    ∃ e, Draft.lines flags n ls d = (e, none) ∧
      Draft.lines flags (n + ls.length) ls' e = (d', none) := by
  rcases hlines : Draft.lines flags n ls d with ⟨e, _ | f⟩
  · exact ⟨e, rfl, (lines_append hlines ls').symm.trans h⟩
  · rw [lines_append_of_fault hlines] at h
    cases h

/-- The names of all blocks, with that of the open block. -/
def names (d : Draft) : List Text := (d.blocks ++ d.opened.toList).map Block.name

theorem names_of_idle (h : d.opened = none) : d.names = d.blocks.map Block.name := by
  simp [names, h]

theorem Lined.mem_names_iff (h : Lined flags n d tokens d' none) (hd : d.Sound) (name : Text) :
    name ∈ d'.names ↔
      name ∈ d.names ∨ ∃ directive, Opens tokens directive ∧ directive.tail = name := by
  cases h with
  | blank => simp [not_opens_nil]
  | @closed _ b hend hopened =>
      obtain ⟨-, hblocks, hclosed, -⟩ := close_of_opened hopened (hd.fresh b hopened) flags
      simp [names, hblocks, hclosed, hopened, hend.not_opens]
  | @opened _ directive hopens hopened _ =>
      have honly : (∃ other, Opens tokens other ∧ other.tail = name) ↔ directive.tail = name := by
        constructor
        · rintro ⟨other, hother, rfl⟩
          rw [hopens.unique hother]
        · exact fun h => ⟨directive, hopens, h⟩
      rw [honly]
      simp [names, hopened, eq_comm]
  | @added _ i hspelled =>
      have hsame : (d.add n i).names = d.names := by
        unfold names Draft.add
        split <;> simp_all
      simp [hsame, hspelled.plain.not_opens]

theorem Lined.opened_eq_none (h : Lined flags n d tokens d' none) {directive : Text}
    (hopens : Opens tokens directive) : d.opened = none := by
  cases h with
  | blank => exact absurd hopens (not_opens_nil directive)
  | closed hend _ => exact absurd hopens (hend.not_opens directive)
  | opened _ hidle _ => exact hidle
  | added hspelled => exact absurd hopens (hspelled.plain.not_opens directive)

theorem mem_names_of_lines (hd : d.Sound) (h : Draft.lines flags n ls d = (d', none))
    (name : Text) :
    name ∈ d'.names ↔ name ∈ d.names ∨
      ∃ text ∈ ls, ∃ directive, Opens (tokensOfLine text) directive ∧ directive.tail = name := by
  induction ls generalizing n d with
  | nil =>
      cases h
      simp
  | cons text ls ih =>
      obtain ⟨d₁, hlined, h⟩ := lines_cons_eq_none.mp h
      rw [ih (hlined.sound hd) h, hlined.mem_names_iff hd]
      simp [or_assoc]

end Assembly.Draft

open Assembly

section Append

variable {flags : AssemblyFlags} {s t : Text} {p q : Program}

theorem mem_names_iff_of_assemble (h : (assemble flags s).result = .ok p) (name : Text) :
    name ∈ p.blocks.map Block.name ↔
      ∃ text ∈ s.lines, ∃ directive, Opens (tokensOfLine text) directive ∧
        directive.tail = name := by
  obtain ⟨d, hlines, hopened, rfl⟩ := assemble_eq_ok_iff.mp h
  have hstart : (Draft.start flags s).names = [] := by simp [Draft.start, Draft.names]
  have hnames := Draft.mem_names_of_lines (Draft.sound_start flags s) hlines name
  rw [Draft.names_of_idle hopened, hstart] at hnames
  simpa [Draft.program] using hnames

theorem lines_append_of_assemble (hs : s.IsWhole) (h : (assemble flags s).result = .ok p)
    (t : Text) :
    ∃ d, Draft.lines flags 0 (s ++ t).lines (Draft.start flags (s ++ t)) =
        Draft.lines flags s.lines.length t.lines d ∧
      d.Sound ∧ d.opened = none ∧ d.program = p ∧
      d.entries.toList = (assemble flags s).entries := by
  obtain ⟨d, hlines, hopened, rfl⟩ := assemble_eq_ok_iff.mp h
  obtain ⟨e, hlines', he⟩ := Draft.lines_start hlines (s ++ t)
  refine ⟨e, ?_, ?_, he.opened_eq_none.mpr hopened, ?_, ?_⟩
  · rw [Text.lines_append hs, Draft.lines_append hlines', Nat.zero_add]
  · exact Draft.sound_of_lines (Draft.sound_start flags _) hlines'
  · simp [Draft.program, he.instructions, he.blocks]
  · rw [assemble_entries, hlines, he.entries]
    simp

theorem assemble_append_ok (hs : s.IsWhole) (hp : (assemble flags s).result = .ok p)
    (hq : (assemble flags t).result = .ok q)
    (hnames : ∀ name ∈ p.blocks.map Block.name, name ∉ q.blocks.map Block.name) :
    (assemble flags (s ++ t)).result =
        .ok ⟨p.instructions.dropLast ++ q.instructions,
          p.blocks ++ q.blocks.map (Block.shift s.lines.length)⟩ ∧
      (assemble flags (s ++ t)).entries = (assemble flags s).entries ++
        (assemble flags t).entries.map (SourceEntry.shift s.lines.length) := by
  obtain ⟨d, hlines, hd, hopened, rfl, hentries⟩ := lines_append_of_assemble hs hp t
  have hfresh : ∀ text ∈ t.lines, ∀ directive, Opens (tokensOfLine text) directive →
      directive.tail ∉ d.blocks.map Block.name := by
    intro text htext directive hopens hmem
    refine hnames directive.tail hmem ?_
    exact (mem_names_iff_of_assemble hq _).mpr ⟨text, htext, directive, hopens, rfl⟩
  obtain ⟨d', hlines', hopened', rfl⟩ := assemble_eq_ok_iff.mp hq
  obtain ⟨e, he, hstacked⟩ :=
    (hd.stacked_start hopened flags t s.lines.length).lines hd rfl hlines' hfresh
  rw [Nat.zero_add] at he
  have hwhole := hlines.trans he
  constructor
  · refine assemble_eq_ok_iff.mpr ⟨e, hwhole, hstacked.opened_eq_none.mpr hopened', ?_⟩
    simp [Draft.program, hstacked.instructions, hstacked.blocks]
  · rw [assemble_entries, hwhole, hstacked.entries, hentries, assemble_entries flags t, hlines']

theorem exists_first_opening {ls : List Text} {names : List Text}
    (h : ∃ text ∈ ls, ∃ directive, Opens (tokensOfLine text) directive ∧
      directive.tail ∈ names) :
    ∃ front text back directive, ls = front ++ text :: back ∧
      Opens (tokensOfLine text) directive ∧ directive.tail ∈ names ∧
      ∀ line ∈ front, ∀ other, Opens (tokensOfLine line) other → other.tail ∉ names := by
  classical
  let opening : Text → Bool := fun text =>
    decide (∃ directive, Opens (tokensOfLine text) directive ∧ directive.tail ∈ names)
  obtain ⟨text, htext, hopening⟩ := h
  have hsome : (ls.find? opening).isSome := by
    rw [List.find?_isSome]
    exact ⟨text, htext, decide_eq_true hopening⟩
  obtain ⟨first, hfirst⟩ := Option.isSome_iff_exists.mp hsome
  obtain ⟨hopens, front, back, rfl, hfront⟩ := List.find?_eq_some_iff_append.mp hfirst
  obtain ⟨directive, hopens, hmem⟩ := of_decide_eq_true hopens
  refine ⟨front, first, back, directive, rfl, hopens, hmem, ?_⟩
  intro line hline other hother hname
  have hnot := hfront line hline
  have hopening' : opening line = true := decide_eq_true ⟨other, hother, hname⟩
  rw [hopening'] at hnot
  exact Bool.false_ne_true hnot

theorem assemble_append_duplicate (hs : s.IsWhole) (hp : (assemble flags s).result = .ok p)
    (hq : (assemble flags t).result = .ok q)
    (hnames : ∃ name ∈ p.blocks.map Block.name, name ∈ q.blocks.map Block.name) :
    ∃ front text back directive, t.lines = front ++ text :: back ∧
      Opens (tokensOfLine text) directive ∧ directive.tail ∈ p.blocks.map Block.name ∧
      (∀ line ∈ front, ∀ other, Opens (tokensOfLine line) other →
        other.tail ∉ p.blocks.map Block.name) ∧
      (assemble flags (s ++ t)).result =
        .error ⟨.duplicate directive, front.length + s.lines.length, text⟩ := by
  obtain ⟨name, hname, hname'⟩ := hnames
  obtain ⟨text, htext, directive, hopens, rfl⟩ := (mem_names_iff_of_assemble hq name).mp hname'
  obtain ⟨front, text, back, directive, hsplit, hopens, hmem, hfront⟩ :=
    exists_first_opening ⟨text, htext, directive, hopens, hname⟩
  refine ⟨front, text, back, directive, hsplit, hopens, hmem, hfront, ?_⟩
  obtain ⟨d, hlines, hd, hopened, rfl, -⟩ := lines_append_of_assemble hs hp t
  obtain ⟨d', hlines', -, -⟩ := assemble_eq_ok_iff.mp hq
  rw [hsplit] at hlines'
  obtain ⟨d₁, hlines₁, hrest⟩ := Draft.lines_split hlines'
  obtain ⟨d₂, hlined, -⟩ := Draft.lines_cons_eq_none.mp hrest
  obtain ⟨e, he, hstacked⟩ :=
    (hd.stacked_start hopened flags t s.lines.length).lines hd rfl hlines₁ hfront
  have hidle := hlined.opened_eq_none hopens
  have hfault : Draft.Lined flags (s.lines.length + front.length) e (tokensOfLine text) e
      (some (.duplicate directive)) := by
    refine .duplicate hopens (hstacked.opened_eq_none.mpr hidle) ?_
    rw [hstacked.names]
    exact List.mem_append_left _ hmem
  rw [Nat.zero_add] at he
  have hwhole := hlines
  rw [hsplit, hfault.lines_of_fault he, Nat.add_comm] at hwhole
  exact assemble_eq_error_iff.mpr ⟨e, _, hwhole, .inl rfl⟩

theorem assemble_append_error {f : AssemblyFault} (hs : s.IsWhole)
    (hf : (assemble flags s).result = .error f)
    (hterminated : ∀ directive, f.fault ≠ .unterminated directive) :
    (assemble flags (s ++ t)).result = .error f := by
  obtain ⟨d, fault, hlines, rfl | ⟨-, b, -, rfl⟩⟩ := assemble_eq_error_iff.mp hf
  · obtain ⟨e, he, -⟩ := Draft.lines_start hlines (s ++ t)
    refine assemble_eq_error_iff.mpr ⟨e, _, ?_, .inl rfl⟩
    rw [Text.lines_append hs, Draft.lines_append_of_fault he]
  · exact absurd rfl (hterminated b.directive)

/-- A text in front of which another stands adds its instructions and its blocks to those of the
other. If both have a block of one name, then the first line that opens such a block again is
reported. What is wrong with the first text is wrong with both together, unless it is a block
without an end. -/
theorem assemble_append (flags : AssemblyFlags) {s : Text} (hs : s.IsWhole) (t : Text) :
    (∀ p q, (assemble flags s).result = .ok p → (assemble flags t).result = .ok q →
      ((∀ name ∈ p.blocks.map Block.name, name ∉ q.blocks.map Block.name) →
        (assemble flags (s ++ t)).result =
            .ok ⟨p.instructions.dropLast ++ q.instructions,
              p.blocks ++ q.blocks.map (Block.shift s.lines.length)⟩ ∧
          (assemble flags (s ++ t)).entries = (assemble flags s).entries ++
            (assemble flags t).entries.map (SourceEntry.shift s.lines.length)) ∧
      ((∃ name ∈ p.blocks.map Block.name, name ∈ q.blocks.map Block.name) →
        ∃ front text back directive, t.lines = front ++ text :: back ∧
          Opens (tokensOfLine text) directive ∧ directive.tail ∈ p.blocks.map Block.name ∧
          (∀ line ∈ front, ∀ other, Opens (tokensOfLine line) other →
            other.tail ∉ p.blocks.map Block.name) ∧
          ∃ f, (assemble flags (s ++ t)).result = .error f ∧
            f = ⟨.duplicate directive, front.length + s.lines.length, text⟩ ∧
            f.report = .diagnostic ⟨.block, "Duplicate function: ".toList ++ directive,
              .source (some (front.length + s.lines.length : Nat)) (some text)⟩)) ∧
    ∀ f, (assemble flags s).result = .error f →
      (∀ directive, f.fault ≠ .unterminated directive) →
        (assemble flags (s ++ t)).result = .error f := by
  refine ⟨fun p q hp hq => ⟨?_, ?_⟩, fun f hf hterminated => ?_⟩
  · exact assemble_append_ok hs hp hq
  · intro hshared
    obtain ⟨front, text, back, directive, hsplit, hopens, hname, hfront, hresult⟩ :=
      assemble_append_duplicate hs hp hq hshared
    exact ⟨front, text, back, directive, hsplit, hopens, hname, hfront, _, hresult, rfl, rfl⟩
  · exact assemble_append_error hs hf hterminated

theorem assemble_append_blocks :
    let s : Text := ".f\nINC 1\n.end\nINC 2\n".toList
    let p : Program := ⟨[⟨.inc, 2, 0⟩, .halt], [⟨['f'], ".f".toList, 0, [⟨.inc, 1, 0⟩]⟩]⟩
    let fresh : Text := "\n.g\n.end\nDEC 2".toList
    let q : Program := ⟨[⟨.dec, 2, 0⟩, .halt], [⟨['g'], ".g".toList, 1, []⟩]⟩
    let again : Text := "DEC 2\n.f\n.end".toList
    let r : Program := ⟨[⟨.dec, 2, 0⟩, .halt], [⟨['f'], ".f".toList, 1, []⟩]⟩
    let bad : Text := "INC 1\n.end\n".toList
    s.IsWhole ∧ (assemble {} s).result = .ok p ∧ (assemble {} fresh).result = .ok q ∧
      (assemble {} (s ++ fresh)).result =
        .ok ⟨[⟨.inc, 2, 0⟩, ⟨.dec, 2, 0⟩, .halt], p.blocks ++ [⟨['g'], ".g".toList, 5, []⟩]⟩ ∧
      (assemble {} again).result = .ok r ∧
      (∃ front text back directive, again.lines = front ++ text :: back ∧
        directive.tail ∈ p.blocks.map Block.name ∧
        (assemble {} (s ++ again)).result =
          .error ⟨.duplicate directive, front.length + 4, text⟩) ∧
      bad.IsWhole ∧ (assemble {} (bad ++ s)).result =
        .error ⟨.endWithoutBlock, 1, Block.endDirective⟩ := by
  intro s p fresh q again r bad
  have hs : s.IsWhole := .inr rfl
  have hbad : bad.IsWhole := .inr rfl
  have hp : (assemble {} s).result = .ok p := by rfl
  have hq : (assemble {} fresh).result = .ok q := by rfl
  have hr : (assemble {} again).result = .ok r := by rfl
  have hfault : (assemble {} bad).result = .error ⟨.endWithoutBlock, 1, Block.endDirective⟩ := by
    rfl
  refine ⟨hs, hp, hq, ?_, hr, ?_, hbad, ?_⟩
  · exact (((assemble_append {} hs fresh).1 p q hp hq).1 (by decide)).1
  · obtain ⟨front, text, back, directive, hsplit, -, hname, -, _, hresult, rfl, -⟩ :=
      ((assemble_append {} hs again).1 p r hp hr).2 (by decide)
    exact ⟨front, text, back, directive, hsplit, hname, hresult⟩
  · exact (assemble_append {} hbad s).2 _ hfault nofun

end Append

end LetterMachine
