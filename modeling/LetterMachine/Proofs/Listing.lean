import LetterMachine.Workbench
import LetterMachine.Proofs.Draft

namespace LetterMachine

namespace Text

theorem ofNat_injective : Function.Injective ofNat := by
  intro m n h
  have hvalue := congrArg (fun digits => Nat.ofDigitChars 10 digits 0) h
  simpa only [ofNat, Nat.ofDigitChars_ten_toDigits] using hvalue

theorem not_mem_ofNat {c : Char} (hc : c.isDigit = false) (n : Nat) : c ∉ ofNat n := by
  intro hmem
  rw [isDigit_of_mem_ofNat hmem] at hc
  cases hc

theorem ofNat_ne_dash (n : Nat) : ofNat n ≠ ['-'] := by
  intro h
  have hdash : '-' ∈ ofNat n := by rw [h]; exact List.mem_cons_self
  exact not_mem_ofNat (by decide) n hdash

theorem break_not_mem_ofInt (n : Int) : '\n' ∉ ofInt n := by
  cases n with
  | ofNat n => exact not_mem_ofNat (by decide) n
  | negSucc n => exact List.not_mem_cons_of_ne_of_not_mem (by decide) (not_mem_ofNat (by decide) _)

theorem mem_padLeft {width : Nat} {t : Text} {c : Char} (hc : c ∈ padLeft width t) :
    c = ' ' ∨ c ∈ t := by
  rcases List.mem_append.mp hc with hc | hc
  · exact .inl (List.eq_of_mem_replicate hc)
  · exact .inr hc

theorem dropWhile_padLeft {t : Text} (h : ' ' ∉ t) (width : Nat) :
    (padLeft width t).dropWhile (· == ' ') = t := by
  have hblanks : ∀ c ∈ List.replicate (width - t.length) ' ', (c == ' ') = true := by
    intro c hc
    rw [List.eq_of_mem_replicate hc]
    rfl
  rw [padLeft, List.leftpad, List.dropWhile_append_of_pos hblanks]
  rcases t with _ | ⟨c, t⟩
  · rfl
  · apply List.dropWhile_cons_of_neg
    intro hc
    exact h (beq_iff_eq.mp hc ▸ List.mem_cons_self)

theorem padLeft_inj {s t : Text} (hs : ' ' ∉ s) (ht : ' ' ∉ t) (width : Nat) :
    padLeft width s = padLeft width t ↔ s = t := by
  constructor
  · intro h
    rw [← dropWhile_padLeft hs width, h, dropWhile_padLeft ht]
  · rintro rfl
    rfl

end Text

theorem intercalate_inj {α : Type} [BEq α] [LawfulBEq α] {separator : α} {ls ls' : List (List α)}
    (h : ∀ l ∈ ls, separator ∉ l) (hne : ls ≠ []) (h' : ∀ l ∈ ls', separator ∉ l)
    (hne' : ls' ≠ []) :
    [separator].intercalate ls = [separator].intercalate ls' ↔ ls = ls' := by
  constructor
  · intro heq
    rw [← List.splitOn_intercalate separator h hne, heq,
      List.splitOn_intercalate separator h' hne']
  · rintro rfl
    rfl

theorem append_flatMap_eq_intercalate {α β : Type} (separator : α) (first : List α)
    (bs : List β) (f : β → List α) :
    (first ++ bs.flatMap fun b => separator :: f b) =
      [separator].intercalate (first :: bs.map f) := by
  induction bs generalizing first with
  | nil => simp
  | cons b bs ih =>
      rw [List.map_cons, List.intercalate_cons_cons, ← ih (f b), List.flatMap_cons]
      simp

namespace Instruction

theorem break_not_mem_shown (i : Instruction) : '\n' ∉ i.shown := by
  have hmnemonic := (Opcode.isToken_mnemonic i.opcode).isLine.unbroken
  have hoperands : '\n' ∉ [',', ' '].intercalate (i.operands.map Text.ofInt) := by
    intro hc
    rcases mem_intercalate hc with hc | ⟨w, hw, hc⟩
    · simp at hc
    · obtain ⟨n, -, rfl⟩ := List.mem_map.mp hw
      exact Text.break_not_mem_ofInt n hc
  unfold shown
  split
  · exact hmnemonic
  · simp [hmnemonic, hoperands]

end Instruction

namespace Listing

theorem row_inj {n : Nat} {line line' : Text} {i : Instruction} (h : ' ' ∉ line)
    (h' : ' ' ∉ line') : row n line i = row n line' i ↔ line = line' := by
  rw [← Text.padLeft_inj h h' 4]
  simp [row]

theorem space_not_mem_ofNat {lines : List Nat} : ∀ line ∈ lines.map Text.ofNat, ' ' ∉ line := by
  intro line hline
  obtain ⟨n, -, rfl⟩ := List.mem_map.mp hline
  exact Text.not_mem_ofNat (by decide) n

theorem mapIdx_zip_eq_iff (f : Nat → Text → Instruction → Text) (lines lines' : List Text)
    (hf : ∀ n i, ∀ line ∈ lines, ∀ line' ∈ lines', f n line i = f n line' i ↔ line = line')
    (is : List Instruction) :
    ((lines.zip is).mapIdx fun n (line, i) => f n line i) =
        ((lines'.zip is).mapIdx fun n (line, i) => f n line i) ↔
      lines.take is.length = lines'.take is.length := by
  -- the rest of the rows is numbered from one, so that the rows are general in the induction
  induction is generalizing f lines lines' with
  | nil => simp
  | cons i is ih =>
      rcases lines with _ | ⟨line, lines⟩
      · rcases lines' with _ | ⟨line', lines'⟩ <;> simp
      · rcases lines' with _ | ⟨line', lines'⟩
        · simp
        · have hhead := hf 0 i line List.mem_cons_self line' List.mem_cons_self
          have htail := ih (fun n => f (n + 1)) lines lines'
            fun n i line hline line' hline' =>
              hf (n + 1) i line (List.mem_cons_of_mem _ hline) line' (List.mem_cons_of_mem _ hline')
          simp only [List.zip_cons_cons, List.mapIdx_cons, List.cons.injEq, hhead, htail,
            List.length_cons, List.take_succ_cons]

theorem rowsBeside_eq_iff {lines lines' : List Text} (h : ∀ line ∈ lines, ' ' ∉ line)
    (h' : ∀ line ∈ lines', ' ' ∉ line) (is : List Instruction) :
    rowsBeside lines is = rowsBeside lines' is ↔
      lines.take is.length = lines'.take is.length := by
  apply mapIdx_zip_eq_iff row
  intro n i line hline line' hline'
  exact row_inj (h line hline) (h' line' hline')

theorem filter_take_dashes (lines : List Nat) (n : Nat) :
    ((lines.map Text.ofNat ++ List.replicate n ['-']).take n).filter (· != ['-']) =
      (lines.take n).map Text.ofNat := by
  have hlines : ∀ line ∈ (lines.take n).map Text.ofNat, (line != ['-']) = true := by
    intro line hline
    obtain ⟨k, -, rfl⟩ := List.mem_map.mp hline
    exact bne_iff_ne.mpr (Text.ofNat_ne_dash k)
  have hdashes : ∀ line ∈ (List.replicate n ['-']).take (n - (lines.map Text.ofNat).length),
      ¬(line != ['-']) = true := by
    intro line hline
    rw [List.eq_of_mem_replicate (List.mem_of_mem_take hline)]
    decide
  rw [List.take_append, List.filter_append, List.filter_eq_nil_iff.mpr hdashes, List.append_nil,
    ← List.map_take, List.filter_eq_self.mpr hlines]

theorem globalRows_eq_iff (lines lines' : List Nat) (is : List Instruction) :
    globalRows lines is = globalRows lines' is ↔
      lines.take is.length = lines'.take is.length := by
  have hsolid : ∀ lines : List Nat,
      ∀ line ∈ lines.map Text.ofNat ++ List.replicate is.length ['-'], ' ' ∉ line := by
    intro lines line hline
    rcases List.mem_append.mp hline with hline | hline
    · exact space_not_mem_ofNat line hline
    · rw [List.eq_of_mem_replicate hline]
      decide
  rw [globalRows, globalRows, rowsBeside_eq_iff (hsolid lines) (hsolid lines')]
  constructor
  · intro h
    have hlines := congrArg (List.filter (· != ['-'])) h
    rw [filter_take_dashes, filter_take_dashes] at hlines
    exact List.map_injective_iff.mpr Text.ofNat_injective hlines
  · intro h
    have hlength := congrArg List.length h
    rw [List.length_take, List.length_take] at hlength
    have hrest : is.length - lines.length = is.length - lines'.length := by omega
    rw [List.take_append, List.take_append, ← List.map_take, ← List.map_take, h, List.length_map,
      List.length_map, hrest]

theorem take_map_ofNat_inj {lines lines' : List Nat} {n : Nat} :
    (lines.map Text.ofNat).take n = (lines'.map Text.ofNat).take n ↔
      lines.take n = lines'.take n := by
  rw [← List.map_take, ← List.map_take]
  exact (List.map_injective_iff.mpr Text.ofNat_injective).eq_iff

theorem blockRows_tail_eq_iff (lines lines' : List Nat) (b : Block) :
    (blockRows lines b).tail = (blockRows lines' b).tail ↔
      lines.take b.instructions.length = lines'.take b.instructions.length := by
  rw [blockRows, blockRows, List.tail_cons, List.tail_cons, List.cons.injEq,
    rowsBeside_eq_iff space_not_mem_ofNat space_not_mem_ofNat, take_map_ofNat_inj]
  exact and_iff_right rfl

theorem exists_row_of_mem {lines : List Text} {is : List Instruction} {r : Text}
    (hr : r ∈ rowsBeside lines is) : ∃ n i, ∃ line ∈ lines, r = row n line i := by
  obtain ⟨n, hn, rfl⟩ := List.mem_mapIdx.mp hr
  exact ⟨n, _, _, (List.of_mem_zip (List.getElem_mem hn)).1, rfl⟩

theorem row_ne_nil (n : Nat) (line : Text) (i : Instruction) : row n line i ≠ [] := by
  simp [row]

theorem break_not_mem_row {line : Text} (h : '\n' ∉ line) (n : Nat) (i : Instruction) :
    '\n' ∉ row n line i := by
  have hpad : ∀ {width : Nat} {t : Text}, '\n' ∉ t → '\n' ∉ Text.padLeft width t := by
    intro width t ht hc
    rcases Text.mem_padLeft hc with hc | hc
    · cases hc
    · exact ht hc
  have hindex : '\n' ∉ Text.padLeft 5 (Text.ofNat n) := hpad (Text.not_mem_ofNat (by decide) n)
  simp [row, hindex, hpad h, i.break_not_mem_shown]

/-- A row that is not empty and stands on one line. -/
structure IsRow (r : Text) : Prop where
  nonempty : r ≠ []
  unbroken : '\n' ∉ r

theorem isRow_of_mem_globalRows {lines : List Nat} {is : List Instruction} {r : Text}
    (hr : r ∈ globalRows lines is) : IsRow r := by
  obtain ⟨n, i, line, hline, rfl⟩ := exists_row_of_mem hr
  refine ⟨row_ne_nil n line i, break_not_mem_row ?_ n i⟩
  rcases List.mem_append.mp hline with hline | hline
  · obtain ⟨k, -, rfl⟩ := List.mem_map.mp hline
    exact Text.not_mem_ofNat (by decide) k
  · rw [List.eq_of_mem_replicate hline]
    decide

theorem isRow_of_mem_blockRows_tail {lines : List Nat} {b : Block} (hb : b.WellFormed) {r : Text}
    (hr : r ∈ (blockRows lines b).tail) : IsRow r := by
  rcases List.mem_cons.mp hr with rfl | hr
  · have hdirective := hb.isToken.isLine.unbroken
    have hline : '\n' ∉ Text.ofNat b.line := Text.not_mem_ofNat (by decide) b.line
    exact ⟨by simp, by simp [hdirective, hline]⟩
  · obtain ⟨n, i, line, hline, rfl⟩ := exists_row_of_mem hr
    obtain ⟨k, -, rfl⟩ := List.mem_map.mp hline
    exact ⟨row_ne_nil n _ i, break_not_mem_row (Text.not_mem_ofNat (by decide) k) n i⟩

/-- Two lists of entries that put the instructions of a program on the same lines. -/
structure SameLines (p : Program) (entries entries' : List SourceEntry) : Prop where
  instructions : (linesIn entries none).take p.instructions.length =
    (linesIn entries' none).take p.instructions.length
  blocks : ∀ b ∈ p.blocks, (linesIn entries (some b.name)).take b.instructions.length =
    (linesIn entries' (some b.name)).take b.instructions.length

/-- The rows above the blocks. -/
def topRows (p : Program) (entries : List SourceEntry) : List Text :=
  "Index  Line  Instruction".toList :: List.replicate 40 '-' ::
    globalRows (linesIn entries none) p.instructions

/-- The parts of a listing, between which empty rows stand. -/
def parts (p : Program) (entries : List SourceEntry) : List (List Text) :=
  topRows p entries :: p.blocks.map fun b => (blockRows (linesIn entries (some b.name)) b).tail

theorem rows_eq_intercalate (p : Program) (entries : List SourceEntry) :
    rows p entries = [[]].intercalate (parts p entries) :=
  append_flatMap_eq_intercalate [] (topRows p entries) p.blocks _

theorem isRow_of_mem_parts {p : Program} (hp : p.WellFormed) {entries : List SourceEntry}
    {part : List Text} (hpart : part ∈ parts p entries) {r : Text} (hr : r ∈ part) : IsRow r := by
  rcases List.mem_cons.mp hpart with rfl | hpart
  · rcases List.mem_cons.mp hr with rfl | hr
    · exact ⟨by decide, by decide⟩
    · rcases List.mem_cons.mp hr with rfl | hr
      · exact ⟨by decide, by decide⟩
      · exact isRow_of_mem_globalRows hr
  · obtain ⟨b, hb, rfl⟩ := List.mem_map.mp hpart
    exact isRow_of_mem_blockRows_tail (hp.blocks b hb) hr

theorem parts_eq_iff (p : Program) (entries entries' : List SourceEntry) :
    parts p entries = parts p entries' ↔ SameLines p entries entries' := by
  have htop : topRows p entries = topRows p entries' ↔
      (linesIn entries none).take p.instructions.length =
        (linesIn entries' none).take p.instructions.length := by
    rw [← globalRows_eq_iff]
    simp [topRows]
  rw [parts, parts, List.cons.injEq, List.map_inj_left, htop]
  simp only [blockRows_tail_eq_iff]
  constructor
  · rintro ⟨hinstructions, hblocks⟩
    exact ⟨hinstructions, hblocks⟩
  · intro h
    exact ⟨h.instructions, h.blocks⟩

/-- A listing tells the lines of the instructions that it shows. -/
theorem render_eq_iff {p : Program} (hp : p.WellFormed) (entries entries' : List SourceEntry) :
    render p entries = render p entries' ↔ SameLines p entries entries' := by
  have hunbroken : ∀ entries, ∀ r ∈ rows p entries, '\n' ∉ r := by
    intro entries r hr
    rw [rows_eq_intercalate] at hr
    rcases mem_intercalate hr with hr | ⟨part, hpart, hr⟩
    · rw [List.mem_singleton.mp hr]
      exact List.not_mem_nil
    · exact (isRow_of_mem_parts hp hpart hr).unbroken
  have hparts : ∀ entries, ∀ part ∈ parts p entries, [] ∉ part := by
    intro entries part hpart hr
    exact (isRow_of_mem_parts hp hpart hr).nonempty rfl
  have hne : ∀ entries, parts p entries ≠ [] := fun _ => List.cons_ne_nil _ _
  rw [render, render, intercalate_inj (hunbroken entries) (List.cons_ne_nil _ _)
    (hunbroken entries') (List.cons_ne_nil _ _), rows_eq_intercalate, rows_eq_intercalate,
    intercalate_inj (hparts entries) (hne entries) (hparts entries') (hne entries'), parts_eq_iff]

end Listing

namespace Workbench

/-- The workbench on which source texts have been assembled one after another. -/
def after (flags : AssemblyFlags) (sources : List Text) : Workbench :=
  sources.foldl (fun w source => (w.assemble source).2) { flags }

theorem assemble_of_error {w : Workbench} {source : Text} {f : AssemblyFault}
    (h : (LetterMachine.assemble w.flags source).result = .error f) :
    (w.assemble source).2 =
      { w with entries := (LetterMachine.assemble w.flags source).entries } := by
  simp [assemble, keep, h]

/-- A workbench with the given flags, on which any program is well formed. -/
structure Sound (flags : AssemblyFlags) (w : Workbench) : Prop where
  flags_eq : w.flags = flags
  wellFormed : ∀ p, w.program = some p → p.WellFormed

theorem sound_new (flags : AssemblyFlags) : Sound flags { flags } where
  flags_eq := rfl
  wellFormed p hp := by cases hp

theorem Sound.assemble {flags : AssemblyFlags} {w : Workbench} (hw : Sound flags w)
    (source : Text) : Sound flags (w.assemble source).2 where
  flags_eq := hw.flags_eq
  wellFormed p hp := by
    rcases hresult : (LetterMachine.assemble w.flags source).result with f | assembled
    · rw [assemble_of_error hresult] at hp
      exact hw.wellFormed p hp
    · simp only [Workbench.assemble, keep, hresult, Option.some.injEq] at hp
      subst hp
      exact Program.wellFormed_of_assemble hresult

theorem sound_after (flags : AssemblyFlags) (sources : List Text) :
    Sound flags (after flags sources) := by
  unfold after
  have hrun : ∀ w, Sound flags w →
      Sound flags (sources.foldl (fun w source => (w.assemble source).2) w) := by
    induction sources with
    | nil => exact fun _ hw => hw
    | cons source sources ih => exact fun w hw => ih _ (hw.assemble source)
  exact hrun _ (sound_new flags)

open Listing in
/-- A text that does not assemble leaves the program alone, but the listing shows the lines of that
text. It stays the same exactly if they are the lines shown before. -/
theorem listing_of_fault (flags : AssemblyFlags) (sources : List Text) {source : Text}
    {f : AssemblyFault} (h : (LetterMachine.assemble flags source).result = .error f) :
    let before := after flags sources
    let failed := (before.assemble source).2
    failed.program = before.program ∧
      (failed.listing = before.listing ↔ ∀ p, before.program = some p →
        SameLines p before.entries (LetterMachine.assemble flags source).entries) := by
  intro before failed
  have hsound := sound_after flags sources
  have hfailed : failed =
      { before with entries := (LetterMachine.assemble flags source).entries } := by
    rw [← hsound.flags_eq] at h ⊢
    exact assemble_of_error h
  rw [hfailed]
  refine ⟨rfl, ?_⟩
  unfold listing
  rcases hprogram : before.program with _ | p
  · simp
  · have hp := hsound.wellFormed p hprogram
    simp only [Option.some.injEq, forall_eq']
    rw [eq_comm]
    exact render_eq_iff hp before.entries _

open Listing in
theorem listing_of_fault_unmoved :
    let before := after {} [".f\nPRINT b\n.end\nINC a".toList]
    let source : Text := ".f\nINC c\n.end\nDEC a\nFOO".toList
    (LetterMachine.assemble {} source).result =
        .error ⟨.unknownInstruction "FOO".toList, 4, "FOO".toList⟩ ∧
      (before.assemble source).2.listing = before.listing := by
  intro before source
  have hfault : (LetterMachine.assemble {} source).result =
      .error ⟨.unknownInstruction "FOO".toList, 4, "FOO".toList⟩ := by rfl
  refine ⟨hfault, (listing_of_fault {} _ hfault).2.mpr ?_⟩
  intro p hp
  cases hp
  refine ⟨by decide, ?_⟩
  intro b hb
  rw [List.mem_singleton.mp hb]
  decide

theorem listing_of_fault_moved :
    let before := after {} ["INC a".toList]
    let source : Text := "\nINC a\nFOO".toList
    (LetterMachine.assemble {} source).result =
        .error ⟨.unknownInstruction "FOO".toList, 2, "FOO".toList⟩ ∧
      (before.assemble source).2.listing ≠ before.listing := by
  intro before source
  exact ⟨by rfl, by decide +kernel⟩

end Workbench

end LetterMachine
