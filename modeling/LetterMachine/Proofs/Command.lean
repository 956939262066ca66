import LetterMachine.Command.Work
import LetterMachine.Proofs.Quiet
import LetterMachine.Proofs.Utf8

namespace LetterMachine

/-- The file at a path holds the bytes of a text. -/
structure Files.Tree.Stores (files : Files.Tree) (path t : Text) : Prop where
  plain : '\x00' ∉ path
  bytes_eq : files.bytes (Files.normal path) = .ok (Text.Utf8.encode t)

theorem Files.Tree.entry_of_bytes {files : Files.Tree} {path : Text} {bytes : List UInt8}
    (h : files.bytes path = .ok bytes) :
    ∃ p, files.locate path = .ok p ∧ files.entry p = some (.file bytes) := by
  obtain ⟨p, hlocate, h⟩ := bind_eq_ok.mp h
  refine ⟨p, hlocate, ?_⟩
  split at h
  · cases h
  · cases h
  · rename_i hentry
    cases h
    exact hentry

theorem Source.read_of_stores {files : Files.Tree} {path t : Text} (h : files.Stores path t)
    (allowed : Bool) : Source.read allowed path files = (.ok t.unifyBreaks, files) := by
  obtain ⟨p, hlocate, hentry⟩ := Files.Tree.entry_of_bytes h.bytes_eq
  have hplain : path.contains '\x00' = false := by simpa using h.plain
  simp only [Source.read, hplain, hlocate, hentry, Source.decode_encode]
  rfl

namespace Command

def settle : Ending → Except Setback Unit
  | .halted => .ok ()
  | .failed f => .error (.failure f.report)
  | .endless => .error .endless

def leave (verbose : Bool) (s : Session) : Except Setback Unit → Outcome
  | .ok _ => ⟨.done, ended s.printed.toList, [], s.files⟩
  | .error (.failure f) =>
    ⟨.failed, ended s.printed.toList, ended (complaint verbose f), s.files⟩
  | .error .endless => ⟨.never, ended s.printed.toList, [], s.files⟩

namespace Work

variable {files : Files.Tree} {path t : Text} {strict : Bool} {p : Program} {m : Machine}
  {ending : Ending} {loader : Yaml.Loader}

theorem run_ofExcept {ε α : Type} (report : ε → Failure) (x : Except ε α) (s : Session) :
    (ofExcept report x).run.run s = (x.mapError fun e => .failure (report e), s) := by
  cases x <;> rfl

theorem run_print (lines : List Text) (s : Session) :
    (print lines).run.run s = (.ok (), { s with printed := s.printed ++ lines }) := rfl

theorem run_settings {r : Request} (hconfig : r.config = none) (s : Session) :
    (settings loader r).run.run s = (.ok ⟨r.verbose, r.strict, true⟩, s) := by
  unfold settings
  rw [hconfig]
  rfl

theorem run_source (h : files.Stores path t) (allowed : Bool) (printed : Array Text) :
    (source path allowed).run.run ⟨printed, files⟩ = (.ok t.unifyBreaks, ⟨printed, files⟩) := by
  change ((ofExcept SourceFault.report (Source.read allowed path files).1).run.run
    ⟨printed, (Source.read allowed path files).2⟩) = _
  rw [Source.read_of_stores h]
  rfl

theorem run_program (h : files.Stores path t) (ht : '\r' ∉ t) (strict : Bool)
    (printed : Array Text) :
    (program { input := path, strict := strict } ⟨false, strict, true⟩).run.run ⟨printed, files⟩ =
      ((assemble ⟨false, strict⟩ t).result.mapError fun f => .failure f.report,
        ⟨printed, files⟩) := by
  change ((source path true) >>= fun text =>
    print (assemble ⟨false, strict⟩ text).notes >>= fun _ =>
      ofExcept AssemblyFault.report (assemble ⟨false, strict⟩ text).result >>= fun p =>
        (pure p : Work Program)).run.run ⟨printed, files⟩ = _
  rw [run_bind, run_source h, Text.unifyBreaks_eq_self ht]
  dsimp only
  have hprint : (print (assemble ⟨false, strict⟩ t).notes).run.run ⟨printed, files⟩ =
      (.ok (), ⟨printed, files⟩) := by
    rw [assemble_notes rfl, run_print, Array.appendList_nil]
  rw [run_bind, hprint]
  dsimp only
  rw [run_bind, run_ofExcept]
  cases (assemble ⟨false, strict⟩ t).result <;> rfl

theorem run_conclude (ending : Ending) {shown : Array Text}
    (hshown : m.feed.toList.map Event.line = shown.toList) (files : Files.Tree) :
    (conclude false ending m).run.run ⟨#[], files⟩ = (settle ending, ⟨shown, files⟩) := by
  have hprinted : (#[] : Array Text) ++ shown.toList = shown := by simp
  unfold conclude
  rw [run_bind, hshown, run_print, hprinted]
  cases ending <;> rfl

theorem run_execute (p : Program) (files : Files.Tree) :
    (execute p false).run.run ⟨#[], files⟩ =
      (settle (Machine.run p.instructions false none {}).1,
        ⟨(Machine.run p.instructions false none {}).2.output, files⟩) := by
  unfold execute
  exact run_conclude _ (Machine.shown_run p.instructions none) files

theorem run_ofRequest (loader : Yaml.Loader) (h : files.Stores path t) (ht : '\r' ∉ t)
    (strict : Bool) :
    (ofRequest loader { input := path, strict := strict }).run.run ⟨#[], files⟩ =
      match (assemble ⟨false, strict⟩ t).result with
      | .error f => (.error (.failure f.report), ⟨#[], files⟩)
      | .ok p => (settle (Machine.run p.instructions false none {}).1,
          ⟨(Machine.run p.instructions false none {}).2.output, files⟩) := by
  unfold ofRequest
  rw [run_bind, run_settings rfl]
  dsimp only
  rw [run_bind, run_program h ht]
  cases (assemble ⟨false, strict⟩ t).result with
  | error f => rfl
  | ok p => exact run_execute p files

end Work

variable {files : Files.Tree} {path t : Text} {strict : Bool} {loader : Yaml.Loader}

theorem follow_of_run {r : Request} {result : Except Setback Unit} {s : Session}
    (h : (Work.ofRequest loader r).run.run ⟨#[], files⟩ = (result, s)) :
    follow loader r files = leave r.verbose s result := by
  unfold follow
  rw [h]
  rcases result with (f | _) | _ <;> rfl

theorem follow_of_fault (h : files.Stores path t) (ht : '\r' ∉ t) {f : AssemblyFault}
    (hf : (assemble ⟨false, strict⟩ t).result = .error f) :
    follow loader { input := path, strict := strict } files =
      ⟨.failed, [], ended (complaint false f.report), files⟩ := by
  have hrun := Work.run_ofRequest loader h ht strict
  rw [hf] at hrun
  exact follow_of_run hrun

theorem follow_of_program (h : files.Stores path t) (ht : '\r' ∉ t) {p : Program}
    (hp : (assemble ⟨false, strict⟩ t).result = .ok p) {ending : Ending} {m : Machine}
    (hending : Machine.run p.instructions false none {} = (ending, m)) :
    follow loader { input := path, strict := strict } files =
      leave false ⟨m.output, files⟩ (settle ending) := by
  have hrun := Work.run_ofRequest loader h ht strict
  rw [hp] at hrun
  dsimp only at hrun
  rw [hending] at hrun
  exact follow_of_run hrun

theorem runWith_of_request {args : List Text} {r : Request} (h : Request.ofTexts args = .ok r)
    (files : Files.Tree) : runWith loader args files = follow loader r files := by
  rw [runWith, h]

theorem Word.ofText_of_head {path : Text} (h : path.head? ≠ some '-') :
    ofText path = .ok (.operand path) := by
  unfold ofText
  split
  · exact absurd rfl h
  · exact absurd rfl h
  · rfl

theorem Request.ofTexts_path (h : path.head? ≠ some '-') :
    ofTexts [path] = .ok { input := path } ∧
      ofTexts ["--strict".toList, path] = .ok { input := path, strict := true } := by
  have hne : path ≠ ['-', '-'] := by
    rintro rfl
    exact h rfl
  have hstrict : Word.ofText "--strict".toList = .ok (.options (.ok ⟨[.strict], .nothing⟩)) := by
    rfl
  constructor
  · rw [ofTexts, Word.ofTexts, if_neg hne, Word.ofText_of_head h]
    rfl
  · rw [ofTexts, Word.ofTexts, if_neg (by decide), hstrict, Word.ofTexts, if_neg hne,
      Word.ofText_of_head h]
    rfl

end Command

end LetterMachine
