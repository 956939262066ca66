import LetterMachine.Proofs.Continuation
import LetterMachine.Workbench
import Mathlib.Data.List.Induction

namespace LetterMachine

open Assembly

/-- The name of the open block behind a line of tokens, if one is open. -/
def blockAfter (opened : Option Text) (tokens : List Text) : Option Text :=
  match tokens.head? with
  | none => opened
  | some head =>
    if head = Block.endDirective then none
    else if isDirective head then some head.tail
    else opened

/-- The name of the open block behind the lines from the start of a text, if one is open. -/
def blockBehind (lines : List Text) : Option Text :=
  lines.foldl (fun opened line => blockAfter opened (tokensOfLine line)) none

section BlockAfter

variable {tokens : List Text} (opened : Option Text)

theorem blockAfter_of_isEnd (h : IsEnd tokens) : blockAfter opened tokens = none := by
  have hhead : tokens.head? = some Block.endDirective := h
  simp only [blockAfter, hhead, if_true]

theorem blockAfter_of_opens {directive : Text} (h : Opens tokens directive) :
    blockAfter opened tokens = some directive.tail := by
  simp only [blockAfter, h.head, h.ne_end, h.isDirective, if_true, if_false]

theorem blockAfter_of_isPlain (h : IsPlain tokens) : blockAfter opened tokens = opened := by
  obtain ⟨head, hhead, hplain⟩ := h
  have hend : head ≠ Block.endDirective := by
    rintro rfl
    cases isDirective_endDirective.symm.trans hplain
  simp only [blockAfter, hhead, hend, hplain, Bool.false_eq_true, if_false]

end BlockAfter

theorem blockBehind_concat (front : List Text) (text : Text) :
    blockBehind (front ++ [text]) = blockAfter (blockBehind front) (tokensOfLine text) := by
  rw [blockBehind, List.foldl_concat, blockBehind]

theorem Assembly.Spelled.unique {strict : Bool} {tokens : List Text} {i i' : Instruction}
    (h : Spelled strict tokens i) (h' : Spelled strict tokens i') : i' = i :=
  Except.ok.inj (h'.decoded.symm.trans h.decoded)

/-- The entry of a line: the instruction that its tokens stand for, in the block that is open in
front of it. -/
structure SourceEntry.Of (strict : Bool) (lines : List Text) (e : SourceEntry) : Prop where
  decoded : ∃ text, lines[e.line]? = some text ∧ Spelled strict (tokensOfLine text) e.instruction
  block_eq : e.block = blockBehind (lines.take e.line)

/-- The entries of all lines that stand for instructions, from the first line to the last. -/
structure EntriesOf (strict : Bool) (lines : List Text) (entries : List SourceEntry) : Prop where
  increasing : (entries.map SourceEntry.line).Pairwise (· < ·)
  mem_iff : ∀ e, e ∈ entries ↔ e.Of strict lines

section EntriesOf

variable {strict : Bool} {front : List Text} {entries : List SourceEntry} {text : Text}
  {i : Instruction}

theorem SourceEntry.Of.line_lt {e : SourceEntry} (h : e.Of strict front) :
    e.line < front.length := by
  obtain ⟨text, hline, -⟩ := h.decoded
  exact (List.getElem?_eq_some_iff.mp hline).1

theorem SourceEntry.of_concat_iff {e : SourceEntry} :
    e.Of strict (front ++ [text]) ↔ e.Of strict front ∨
      Spelled strict (tokensOfLine text) e.instruction ∧
        e.line = front.length ∧ e.block = blockBehind front := by
  constructor
  · rintro ⟨⟨other, hline, hspelled⟩, hblock⟩
    rcases Nat.lt_or_ge e.line front.length with hlt | hge
    · rw [List.getElem?_append_left hlt] at hline
      rw [List.take_append_of_le_length hlt.le] at hblock
      exact .inl ⟨⟨other, hline, hspelled⟩, hblock⟩
    · have heq : e.line = front.length := by
        have hlength := (List.getElem?_eq_some_iff.mp hline).1
        simp only [List.length_append, List.length_singleton] at hlength
        omega
      rw [heq, List.getElem?_concat_length] at hline
      rw [heq, List.take_left] at hblock
      cases hline
      exact .inr ⟨hspelled, heq, hblock⟩
  · rintro (h | ⟨hspelled, heq, hblock⟩)
    · have hlt := h.line_lt
      obtain ⟨⟨other, hline, hspelled⟩, hblock⟩ := h
      refine ⟨⟨other, ?_, hspelled⟩, ?_⟩
      · rwa [List.getElem?_append_left hlt]
      · rwa [List.take_append_of_le_length hlt.le]
    · refine ⟨⟨text, ?_, hspelled⟩, ?_⟩
      · rw [heq, List.getElem?_concat_length]
      · rwa [heq, List.take_left]

namespace EntriesOf

theorem nil (strict : Bool) : EntriesOf strict [] [] where
  increasing := .nil
  mem_iff e := by
    refine ⟨fun he => absurd he List.not_mem_nil, fun h => ?_⟩
    exact absurd h.line_lt (Nat.not_lt_zero _)

theorem push_line (h : EntriesOf strict front entries)
    (hnone : ∀ i, ¬Spelled strict (tokensOfLine text) i) :
    EntriesOf strict (front ++ [text]) entries where
  increasing := h.increasing
  mem_iff e := by
    rw [h.mem_iff e, SourceEntry.of_concat_iff]
    exact ⟨.inl, fun h => h.resolve_right fun hnew => hnone _ hnew.1⟩

theorem push_instruction (h : EntriesOf strict front entries)
    (hspelled : Spelled strict (tokensOfLine text) i) :
    EntriesOf strict (front ++ [text]) (entries ++ [⟨front.length, blockBehind front, i⟩]) where
  increasing := by
    rw [List.map_append]
    apply pairwise_push h.increasing
    intro n hn
    obtain ⟨e, he, rfl⟩ := List.mem_map.mp hn
    exact ((h.mem_iff e).mp he).line_lt
  mem_iff e := by
    rw [List.mem_append, List.mem_singleton, h.mem_iff e, SourceEntry.of_concat_iff]
    refine or_congr_right ⟨?_, ?_⟩
    · rintro rfl
      exact ⟨hspelled, rfl, rfl⟩
    · rintro ⟨hother, hline, hblock⟩
      rcases e with ⟨line, block, j⟩
      obtain rfl : j = i := hspelled.unique hother
      obtain rfl : line = front.length := hline
      obtain rfl : block = blockBehind front := hblock
      rfl

end EntriesOf

end EntriesOf

namespace Assembly.Draft

variable {flags : AssemblyFlags} {d d' : Draft} {text : Text} {front ls : List Text}

/-- The entries of the draft are those of the lines that have been read, behind which its block is
open. -/
structure Logs (strict : Bool) (front : List Text) (d : Draft) : Prop where
  entries : EntriesOf strict front d.entries.toList
  opened : d.opened.map Block.name = blockBehind front

theorem logs_start (flags : AssemblyFlags) (source : Text) :
    (start flags source).Logs flags.strict [] := by
  constructor
  · rw [start, note_entries]
    exact .nil flags.strict
  · rw [start, note_opened]
    rfl

theorem close_opened (d : Draft) (flags : AssemblyFlags) : (d.close flags).1.opened = none := by
  cases hopened : d.opened with
  | none => simp only [Draft.close, hopened]
  | some b => simp only [Draft.close, hopened, note_opened]

theorem add_entries (d : Draft) (n : Nat) (i : Instruction) :
    (d.add n i).entries.toList = d.entries.toList ++ [⟨n, d.opened.map Block.name, i⟩] := by
  cases hopened : d.opened with
  | none => rw [add_of_idle hopened, Array.toList_push, Option.map_none]
  | some b => rw [add_of_opened hopened, Array.toList_push, Option.map_some]

theorem Logs.lined (hd : d.Logs flags.strict front)
    (h : Lined flags front.length d (tokensOfLine text) d' none) :
    d'.Logs flags.strict (front ++ [text]) := by
  -- a line that leaves the entries alone stands for no instruction, as it is not plain
  have hline : (¬IsPlain (tokensOfLine text)) →
      EntriesOf flags.strict (front ++ [text]) d.entries.toList := fun hplain =>
    hd.entries.push_line fun _ hspelled => hplain hspelled.plain
  generalize htokens : tokensOfLine text = tokens at h hline
  cases h with
  | blank =>
      refine ⟨hline ?_, ?_⟩
      · rintro ⟨head, hhead, -⟩
        cases hhead
      · rw [blockBehind_concat, htokens, hd.opened]
        rfl
  | closed hend hopened =>
      refine ⟨?_, ?_⟩
      · rw [close_entries]
        exact hline fun hplain => hplain.not_isEnd hend
      · rw [blockBehind_concat, htokens, blockAfter_of_isEnd _ hend, close_opened]
        rfl
  | opened hopens hopened hfresh =>
      refine ⟨hline fun hplain => hplain.not_opens _ hopens, ?_⟩
      rw [blockBehind_concat, htokens, blockAfter_of_opens _ hopens]
      rfl
  | @added _ i hspelled =>
      refine ⟨?_, ?_⟩
      · rw [add_entries, hd.opened]
        exact hd.entries.push_instruction (htokens ▸ hspelled)
      · rw [blockBehind_concat, htokens, blockAfter_of_isPlain _ hspelled.plain, ← hd.opened]
        unfold Draft.add
        split <;> rfl

theorem logs_of_lines {source : Text}
    (h : Draft.lines flags 0 ls (start flags source) = (d, none)) : d.Logs flags.strict ls := by
  refine lines_invariant (P := Logs flags.strict) ?_ (logs_start flags source) h
  intro front text d d' hd hlined
  exact hd.lined hlined

end Assembly.Draft

/-- The lines that are read before a fault is noticed. A block without an end is noticed behind the
last line. -/
def AssemblyFault.linesRead (f : AssemblyFault) (source : Text) : List Text :=
  match f.fault with
  | .unterminated _ => source.lines
  | _ => source.lines.take f.line

theorem AssemblyFault.linesRead_of_ne {f : AssemblyFault}
    (h : ∀ directive, f.fault ≠ .unterminated directive) (source : Text) :
    f.linesRead source = source.lines.take f.line := by
  unfold linesRead
  split
  · rename_i directive hfault
    exact absurd hfault (h directive)
  · rfl

theorem entriesOf_of_error {flags : AssemblyFlags} {source : Text} {f : AssemblyFault}
    (h : (assemble flags source).result = .error f) :
    EntriesOf flags.strict (f.linesRead source) (assemble flags source).entries := by
  obtain ⟨d, fault, hlines, rfl | ⟨rfl, b, -, rfl⟩⟩ := assemble_eq_error_iff.mp h
  · obtain ⟨front, back, hls, hn, hfront, hfault⟩ := Draft.exists_of_fault hlines
    have hread : f.linesRead source = front := by
      rw [AssemblyFault.linesRead_of_ne hfault.ne_unterminated, hls, hn, Nat.zero_add,
        List.take_left]
    rw [assemble_entries, hlines, hread]
    exact (Draft.logs_of_lines hfront).entries
  · rw [assemble_entries, hlines]
    exact (Draft.logs_of_lines hlines).entries

/-- A source text to assemble, and the flags that are set before. -/
structure Job where
  flags : AssemblyFlags
  source : Text
  deriving DecidableEq, Repr

/-- The program that the source text of a job assembles to, if it does. -/
def Job.program? (job : Job) : Option Program := (assemble job.flags job.source).result.toOption

namespace Workbench

/-- Do a job on the workbench. -/
def perform (w : Workbench) (job : Job) : Assembly × Workbench :=
  { w with flags := job.flags }.assemble job.source

/-- A new workbench on which jobs have been done one after another. -/
def afterJobs (jobs : List Job) : Workbench := jobs.foldl (fun w job => (w.perform job).2) {}

theorem afterJobs_concat (jobs : List Job) (job : Job) :
    afterJobs (jobs ++ [job]) = ((afterJobs jobs).perform job).2 := by
  rw [afterJobs, List.foldl_concat, afterJobs]

theorem program_perform (w : Workbench) (job : Job) :
    (w.perform job).2.program = job.program?.or w.program := by
  simp only [perform, Workbench.assemble, keep, Job.program?]
  cases (LetterMachine.assemble job.flags job.source).result <;> rfl

theorem program_afterJobs (jobs : List Job) :
    (afterJobs jobs).program = (jobs.filterMap Job.program?).getLast? := by
  induction jobs using List.reverseRecOn with
  | nil => rfl
  | append_singleton jobs job ih =>
      rw [afterJobs_concat, program_perform, ih, List.filterMap_append, List.getLast?_append]
      cases hprogram : job.program? <;> simp [hprogram]

/-- Whatever was done on a workbench before, a job is done as on a new one. The program is then that
of the last job that had one, and a fault leaves the entries of the lines in front of it. -/
theorem perform_afterJobs (jobs : List Job) (job : Job) :
    let done := (afterJobs jobs).perform job
    let alone := ({ flags := job.flags } : Workbench).assemble job.source
    done.1 = alone.1 ∧ done.2.entries = alone.2.entries ∧
      done.2.program = ((jobs ++ [job]).filterMap Job.program?).getLast? ∧
      ∀ f, done.1.result = .error f →
        EntriesOf job.flags.strict (f.linesRead job.source) done.2.entries := by
  intro done alone
  have hprogram := program_afterJobs (jobs ++ [job])
  rw [afterJobs_concat] at hprogram
  exact ⟨rfl, rfl, hprogram, fun f hf => entriesOf_of_error hf⟩

theorem perform_afterJobs_unterminated :
    let jobs : List Job :=
      [⟨{}, "INC a\n.f\nDEC b\n.end".toList⟩, ⟨{ strict := true }, "INC b\nINC ?".toList⟩]
    let job : Job := ⟨{ verbose := true }, ".g\nDEC c\n\nINC ?".toList⟩
    let done := (afterJobs jobs).perform job
    let f : AssemblyFault := ⟨.unterminated ".g".toList, 0, ".g".toList⟩
    done.1.result = .error f ∧
      done.1 = (({ flags := job.flags } : Workbench).assemble job.source).1 ∧
      done.2.program = some ⟨[⟨.inc, 0, 0⟩, .halt], [⟨['f'], ".f".toList, 1, [⟨.dec, 1, 0⟩]⟩]⟩ ∧
      done.2.entries = [⟨1, some ['g'], ⟨.dec, 2, 0⟩⟩, ⟨3, some ['g'], ⟨.inc, 0, 0⟩⟩] ∧
      EntriesOf false job.source.lines done.2.entries := by
  intro jobs job done f
  obtain ⟨hanswer, -, hprogram, hfault⟩ := perform_afterJobs jobs job
  have hf : done.1.result = .error f := by rfl
  exact ⟨hf, hanswer, hprogram.trans (by rfl), by rfl, hfault f hf⟩

end Workbench

end LetterMachine
