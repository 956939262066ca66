import LetterMachine.Proofs.Line

/-!
The source of a program. Assembling the source of an assembled program gives that program again,
except for the lines on which its blocks stand.
-/

namespace LetterMachine

/-- What a block is apart from the line on which it stands. -/
def Block.content (b : Block) : Text × Text × List Instruction :=
  (b.name, b.directive, b.instructions)

namespace Assembly.Draft

variable {d d' : Draft} {flags : AssemblyFlags}

def addAll : Nat → List Instruction → Draft → Draft
  | _, [], d => d
  | n, i :: is, d => addAll (n + 1) is (d.add n i)

theorem addAll_of_idle (hd : d.opened = none) (n : Nat) (is : List Instruction) :
    (addAll n is d).instructions.toList = d.instructions.toList ++ is ∧
      (addAll n is d).blocks = d.blocks ∧ (addAll n is d).opened = none ∧
      (addAll n is d).body = d.body := by
  induction is generalizing n d with
  | nil => exact ⟨(List.append_nil _).symm, rfl, hd, rfl⟩
  | cons i is ih =>
      have hadd := add_of_idle hd n i
      have hopened : (d.add n i).opened = none := by rw [hadd, hd]
      obtain ⟨hinstructions, hblocks, hnone, hbody⟩ := ih hopened (n + 1)
      rw [addAll]
      refine ⟨?_, ?_, hnone, ?_⟩
      · rw [hinstructions, hadd, Array.toList_push, List.append_assoc]
        rfl
      · rw [hblocks, hadd]
      · rw [hbody, hadd]

theorem addAll_of_opened {b : Block} (hd : d.opened = some b) (n : Nat) (is : List Instruction) :
    (addAll n is d).instructions = d.instructions ∧ (addAll n is d).blocks = d.blocks ∧
      (addAll n is d).opened = some b ∧
      (addAll n is d).body.toList = d.body.toList ++ is := by
  induction is generalizing n d with
  | nil => exact ⟨rfl, rfl, hd, (List.append_nil _).symm⟩
  | cons i is ih =>
      have hadd := add_of_opened hd n i
      have hopened : (d.add n i).opened = some b := by rw [hadd, hd]
      obtain ⟨hinstructions, hblocks, hsome, hbody⟩ := ih hopened (n + 1)
      rw [addAll]
      refine ⟨?_, ?_, hsome, ?_⟩
      · rw [hinstructions, hadd]
      · rw [hblocks, hadd]
      · rw [hbody, hadd, Array.toList_push, List.append_assoc]
        rfl

theorem line_tokens {i : Instruction} (hi : i.Canonical) (n : Nat) :
    d.line flags n i.tokens = (d.add n i, none) := by
  have hplain : IsPlain i.tokens :=
    ⟨i.opcode.mnemonic, rfl, Opcode.isDirective_mnemonic i.opcode⟩
  exact (Lined.added ⟨hplain, hi.ofTokens_tokens flags.strict⟩).line_eq

theorem lines_instructions {is : List Instruction} (his : ∀ i ∈ is, i.Canonical) (n : Nat) :
    Draft.lines flags n (is.map Instruction.line) d = (addAll n is d, none) := by
  induction is generalizing n d with
  | nil => rfl
  | cons i is ih =>
      have hi := his i List.mem_cons_self
      rw [List.map_cons, Draft.lines, hi.tokensOfLine_line, line_tokens hi, addAll]
      exact ih (fun j hj => his j (List.mem_cons_of_mem i hj)) (n + 1)

/-- No block is open, and the draft holds the given instructions and the given blocks, whatever the
lines on which these stand. -/
structure Holds (d : Draft) (is : List Instruction) (bs : List Block) : Prop where
  instructions : d.instructions.toList = is
  blocks : d.blocks.map Block.content = bs.map Block.content
  opened : d.opened = none
  body : d.body = #[]

theorem holds_start (flags : AssemblyFlags) (source : Text) :
    (Draft.start flags source).Holds [] [] := by
  refine ⟨?_, ?_, ?_, ?_⟩
  · rw [Draft.start, note_instructions]
  · rw [Draft.start, note_blocks]
  · rw [Draft.start, note_opened]
  · rw [Draft.start, note_body]

theorem Holds.names {is : List Instruction} {bs : List Block} (hd : d.Holds is bs) :
    d.blocks.map Block.name = bs.map Block.name := by
  have hnames := congrArg (List.map Prod.fst) hd.blocks
  rwa [List.map_map, List.map_map] at hnames

theorem Holds.lines_instructions {is : List Instruction} (hd : d.Holds [] [])
    (his : ∀ i ∈ is, i.Canonical) (flags : AssemblyFlags) (n : Nat) :
    ∃ d', Draft.lines flags n (is.map Instruction.line) d = (d', none) ∧ d'.Holds is [] := by
  obtain ⟨hinstructions, hblocks, hopened, hbody⟩ := addAll_of_idle hd.opened n is
  refine ⟨addAll n is d, Draft.lines_instructions his n, ?_, ?_, hopened, ?_⟩
  · rw [hinstructions, hd.instructions, List.nil_append]
  · rw [hblocks, hd.blocks]
  · rw [hbody, hd.body]

theorem line_directive (hopened : d.opened = none) {b : Block} (hb : b.WellFormed)
    (hfresh : b.name ∉ d.blocks.map Block.name) (n : Nat) :
    d.line flags n [b.directive] =
      ({ d with opened := some ⟨b.name, b.directive, n, []⟩ }, none) := by
  have hopens : Opens [b.directive] b.directive := by
    refine ⟨rfl, ?_, hb.ne_end⟩
    rw [hb.directive_eq]
    rfl
  have htail : b.directive.tail = b.name := by rw [hb.directive_eq, List.tail_cons]
  have hline := (@Lined.opened flags n d _ _ hopens hopened (htail ▸ hfresh)).line_eq
  rwa [htail] at hline

theorem isToken_endDirective : IsToken Block.endDirective :=
  isToken_of_all (List.cons_ne_nil _ _) rfl

/-- The lines of a block add that block. -/
theorem Holds.lines_block {is : List Instruction} {bs : List Block} (hd : d.Holds is bs)
    {b : Block} (hb : b.WellFormed) (hfresh : b.name ∉ bs.map Block.name)
    (flags : AssemblyFlags) (n : Nat) :
    ∃ d', Draft.lines flags n b.sourceLines d = (d', none) ∧ d'.Holds is (bs ++ [b]) := by
  rw [← hd.names] at hfresh
  let opened : Block := ⟨b.name, b.directive, n, []⟩
  let d₁ : Draft := { d with opened := some opened }
  let d₂ : Draft := addAll (n + 1) b.instructions d₁
  have hopen := @line_directive d flags hd.opened b hb hfresh n
  obtain ⟨hinstructions, hblocks, hopened, hbody⟩ :=
    @addAll_of_opened d₁ opened rfl (n + 1) b.instructions
  have hfresh₂ : opened.name ∉ d₂.blocks.map Block.name := by
    rw [hblocks]
    exact hfresh
  let d₃ : Draft := (d₂.close flags).1
  have hend : IsEnd [Block.endDirective] := rfl
  have hclose : d₂.line flags (n + 1 + b.instructions.length) [Block.endDirective] = (d₃, none) :=
    (Lined.closed hend hopened).line_eq
  obtain ⟨hinstructions₃, hblocks₃, hopened₃, hbody₃⟩ := close_of_opened hopened hfresh₂ flags
  have hbody₁ : Draft.lines flags (n + 1) (b.instructions.map Instruction.line) d₁ = (d₂, none) :=
    Draft.lines_instructions hb.canonical (n + 1)
  refine ⟨d₃, ?_, ?_, ?_, hopened₃, hbody₃⟩
  · rw [Block.sourceLines, Draft.lines, hb.isToken.tokensOfLine, hopen]
    change Draft.lines flags (n + 1) _ d₁ = _
    rw [lines_append hbody₁, List.length_map, Draft.lines, isToken_endDirective.tokensOfLine,
      hclose]
    rfl
  · rw [hinstructions₃, hinstructions]
    exact hd.instructions
  · rw [hblocks₃, hblocks, List.map_append, List.map_append]
    have hcontent : ({ opened with instructions := d₂.body.toList } : Block).content =
        b.content := by
      rw [hbody, show d₁.body = #[] from hd.body]
      rfl
    rw [List.map_singleton, List.map_singleton, hcontent]
    exact congrArg (· ++ [b.content]) hd.blocks

theorem Holds.lines_blocks {is : List Instruction} {bs cs : List Block} (hd : d.Holds is bs)
    (hcs : ∀ c ∈ cs, c.WellFormed) (hnames : ((bs ++ cs).map Block.name).Nodup)
    (flags : AssemblyFlags) (n : Nat) :
    ∃ d', Draft.lines flags n (cs.flatMap Block.sourceLines) d = (d', none) ∧
      d'.Holds is (bs ++ cs) := by
  induction cs generalizing n d bs with
  | nil =>
      refine ⟨d, rfl, ?_⟩
      rwa [List.append_nil]
  | cons c cs ih =>
      have hfresh : c.name ∉ bs.map Block.name := by
        rw [List.map_append, List.map_cons] at hnames
        intro hmem
        exact (List.nodup_append.mp hnames).2.2 _ hmem _ List.mem_cons_self rfl
      obtain ⟨d₁, hlines₁, hd₁⟩ := hd.lines_block (hcs c List.mem_cons_self) hfresh flags n
      have hnames₁ : ((bs ++ [c] ++ cs).map Block.name).Nodup := by
        rwa [List.append_assoc, List.singleton_append]
      obtain ⟨d₂, hlines₂, hd₂⟩ := ih hd₁ (fun b hb => hcs b (List.mem_cons_of_mem c hb)) hnames₁
        (n + c.sourceLines.length)
      refine ⟨d₂, ?_, ?_⟩
      · rw [List.flatMap_cons, lines_append hlines₁, hlines₂]
      · rwa [List.append_assoc, List.singleton_append] at hd₂

end Assembly.Draft

namespace Program

variable {p q : Program}

theorem WellFormed.instructions_eq (hp : p.WellFormed) :
    p.instructions.dropLast ++ [.halt] = p.instructions :=
  List.dropLast_append_getLast? _ hp.getLast

theorem WellFormed.isLine (hp : p.WellFormed) : ∀ line ∈ p.sourceLines, Text.IsLine line := by
  intro line hline
  rcases List.mem_append.mp hline with hline | hline
  · obtain ⟨i, hi, rfl⟩ := List.mem_map.mp hline
    exact (hp.canonical i (List.dropLast_subset _ hi)).isLine_line
  · obtain ⟨b, hb, hline⟩ := List.mem_flatMap.mp hline
    have hblock := hp.blocks b hb
    rcases List.mem_cons.mp hline with rfl | hline
    · exact hblock.isToken.isLine
    · rcases List.mem_append.mp hline with hline | hline
      · obtain ⟨i, hi, rfl⟩ := List.mem_map.mp hline
        exact (hblock.canonical i hi).isLine_line
      · rw [List.mem_singleton.mp hline]
        exact Assembly.Draft.isToken_endDirective.isLine

theorem WellFormed.lines_source (hp : p.WellFormed) : p.source.lines = p.sourceLines :=
  Text.lines_intercalate hp.isLine

theorem source_congr (hinstructions : q.instructions = p.instructions)
    (hblocks : q.blocks.map Block.content = p.blocks.map Block.content) : q.source = p.source := by
  have hlines : ∀ bs : List Block, bs.flatMap Block.sourceLines =
      (bs.map Block.content).flatMap fun c =>
        c.2.1 :: (c.2.2.map Instruction.line ++ [Block.endDirective]) := by
    intro bs
    rw [List.flatMap_map]
    rfl
  rw [source, source, sourceLines, sourceLines, hinstructions, hlines q.blocks, hblocks,
    ← hlines p.blocks]

theorem WellFormed.assemble_source (hp : p.WellFormed) (flags : AssemblyFlags) :
    ∃ q, (assemble flags p.source).result = .ok q ∧ q.instructions = p.instructions ∧
      q.blocks.map Block.content = p.blocks.map Block.content := by
  have hcanonical : ∀ i ∈ p.instructions.dropLast, i.Canonical := by
    intro i hi
    exact hp.canonical i (List.dropLast_subset _ hi)
  have hstart := Assembly.Draft.holds_start flags p.source
  obtain ⟨d₁, hlines₁, hd₁⟩ := hstart.lines_instructions hcanonical flags 0
  obtain ⟨d₂, hlines₂, hd₂⟩ := hd₁.lines_blocks hp.blocks hp.names flags
    (0 + (p.instructions.dropLast.map Instruction.line).length)
  refine ⟨d₂.program, ?_, ?_, hd₂.blocks⟩
  · apply assemble_eq_ok_iff.mpr
    refine ⟨d₂, ?_, hd₂.opened, rfl⟩
    rw [hp.lines_source, sourceLines, Assembly.Draft.lines_append hlines₁, hlines₂]
  · rw [Assembly.Draft.program, hd₂.instructions, hp.instructions_eq]

/-- The source of an assembled program assembles, whether operands are read strictly or not, to the
same instructions and the same blocks in the same order, and so to a program of the same source. -/
theorem assemble_source_of_assemble {flags : AssemblyFlags} {source : Text}
    (h : (assemble flags source).result = .ok p) (flags' : AssemblyFlags) :
    ∃ q, (assemble flags' p.source).result = .ok q ∧ q.instructions = p.instructions ∧
      q.blocks.map Block.content = p.blocks.map Block.content ∧ q.source = p.source := by
  obtain ⟨q, hq, hinstructions, hblocks⟩ := (wellFormed_of_assemble h).assemble_source flags'
  exact ⟨q, hq, hinstructions, hblocks, source_congr hinstructions hblocks⟩

theorem assemble_source_of_blocks :
    let source := "mov a b\nMOV C 7 ; set\nhalt 9\n..\npow a b11\n.end\n.\n.end".toList
    let p : Program :=
      ⟨[⟨.movr, 0, 1⟩, ⟨.mov, 2, 7⟩, .halt, .halt],
        [⟨['.'], ['.', '.'], 3, [⟨.pow, 0, 3⟩]⟩, ⟨[], ['.'], 6, []⟩]⟩
    (assemble {} source).result = .ok p ∧
      ∃ q, (assemble ⟨false, true⟩ p.source).result = .ok q ∧
        q.instructions = p.instructions ∧
        q.blocks.map Block.content = p.blocks.map Block.content ∧ q.source = p.source := by
  intro source p
  have hp : (assemble {} source).result = .ok p := by rfl
  exact ⟨hp, assemble_source_of_assemble hp ⟨false, true⟩⟩

end Program

end LetterMachine
