import LetterMachine.Proofs.Breaks
import LetterMachine.Proofs.Command

namespace LetterMachine

theorem assemble_congr {s t : Text} (h : s.lines = t.lines) (flags : AssemblyFlags) :
    assemble flags s = assemble flags t := by
  unfold assemble Assembly.tokensNote tokenLines
  rw [h]

namespace Command.Work

variable {files : Files.Tree} {path t : Text}

theorem run_listing (listing : Bool) (lines : List Text) (p : Program) (session : Session) :
    ∃ shown, (do if listing then print lines
                 return p : Work Program).run.run session = (.ok p, ⟨shown, session.files⟩) := by
  cases listing with
  | false => exact ⟨session.printed, rfl⟩
  | true => exact ⟨session.printed ++ lines, rfl⟩

theorem run_assembled (h : files.Stores path t) (s : Settings) (listing : Bool)
    (printed : Array Text) :
    ∃ shown, (do
        let text ← source path s.createMissing
        let (a, w) := ({ flags := s.flags } : Workbench).assemble text
        print a.notes
        let p ← ofExcept AssemblyFault.report a.result
        if listing then print [w.listing]
        return p : Work Program).run.run ⟨printed, files⟩ =
      ((assemble s.flags t.unifyBreaks).result.mapError fun f => .failure f.report,
        ⟨shown, files⟩) := by
  rw [run_bind, run_source h]
  dsimp only [Workbench.assemble]
  rw [run_bind, run_print]
  dsimp only
  rw [run_bind, run_ofExcept]
  cases (assemble s.flags t.unifyBreaks).result with
  | error f => exact ⟨_, rfl⟩
  | ok p => exact run_listing listing _ p _

theorem run_program_of_stores (h : files.Stores path t) {r : Request} (hr : r.input = path)
    (s : Settings) (printed : Array Text) :
    ∃ shown, (program r s).run.run ⟨printed, files⟩ =
      ((assemble s.flags t.unifyBreaks).result.mapError fun f => .failure f.report,
        ⟨shown, files⟩) := by
  subst hr
  unfold program
  cases hverbose : s.verbose with
  | false => exact run_assembled h s r.listing printed
  | true =>
      obtain ⟨shown, hrun⟩ := run_assembled h s r.listing
        (printed ++ ["Assembling: ".toList ++ r.input])
      exact ⟨shown, hrun⟩

end Command.Work

open Command Command.Work in
/-- A file that holds a text is assembled as the text with line feeds for carriage returns. These
are the lines of the text exactly if it is settled, and then the outcome is that of the text. -/
theorem assemble_of_file {files : Files.Tree} {path t : Text} (h : files.Stores path t)
    {r : Request} (hr : r.input = path) (s : Settings) (printed : Array Text) :
    let ran := (program r s).run.run ⟨printed, files⟩
    ran.1 = ((assemble s.flags t.unifyBreaks).result.mapError fun f => .failure f.report) ∧
      ran.2.files = files ∧
      (t.unifyBreaks.lines = t.lines ↔ t.Settled) ∧
      (t.Settled → ran.1 = (assemble s.flags t).result.mapError fun f => .failure f.report) := by
  intro ran
  obtain ⟨shown, hrun⟩ := run_program_of_stores h hr s printed
  have hresult : ran.1 =
      (assemble s.flags t.unifyBreaks).result.mapError fun f => .failure f.report :=
    congrArg Prod.fst hrun
  refine ⟨hresult, congrArg (fun run => run.2.files) hrun, Text.lines_unifyBreaks_iff t, ?_⟩
  intro ht
  rw [hresult, assemble_congr ((Text.lines_unifyBreaks_iff t).mpr ht)]

open Command Command.Work in
/-- A comment goes on behind a carriage return in the text, and ends there in the file. -/
theorem assemble_of_file_lone_return :
    let t : Text := "INC a ; first\rINC b".toList
    let files : Files.Tree :=
      ⟨[([], .directory), (["p".toList], .file (Text.Utf8.encode t))], []⟩
    files.Stores "p".toList t ∧
      ((program { input := "p".toList } {}).run.run ⟨#[], files⟩).1 ≠
        (assemble ({} : Settings).flags t).result.mapError fun f => .failure f.report := by
  intro t files
  have hfile : ((program { input := "p".toList } {}).run.run ⟨#[], files⟩).1 =
      .ok ⟨[⟨.inc, 0, 0⟩, ⟨.inc, 1, 0⟩, .halt], []⟩ := by rfl
  have htext : (assemble ({} : Settings).flags t).result = .ok ⟨[⟨.inc, 0, 0⟩, .halt], []⟩ := by rfl
  refine ⟨⟨by decide, by rfl⟩, ?_⟩
  rw [hfile, htext]
  decide

open Command Command.Work in
theorem assemble_of_file_settled :
    let t : Text := "INC a\r\n\r\nFOO \u00e9\r".toList
    let files : Files.Tree :=
      ⟨[([], .directory), (["p".toList], .file (Text.Utf8.encode t))], []⟩
    files.Stores "p".toList t ∧ t.Settled ∧
      ((program { input := "p".toList } {}).run.run ⟨#[], files⟩).1 =
        (assemble ({} : Settings).flags t).result.mapError fun f => .failure f.report := by
  intro t files
  have hstores : files.Stores "p".toList t := ⟨by decide, by rfl⟩
  have hsettled : t.Settled := by
    unfold Text.Settled
    decide
  have hfile := assemble_of_file hstores (r := { input := "p".toList }) rfl {} #[]
  exact ⟨hstores, hsettled, hfile.2.2.2 hsettled⟩

end LetterMachine
