import LetterMachine.Proofs.Command
import LetterMachine.Proofs.Tree

namespace LetterMachine

open Files

namespace Files.Tree

/-- Something stands at the place that a path leads to. -/
def Occupied (t : Tree) (path : Text) : Prop :=
  '\x00' ∉ path ∧ ∃ p e, t.locate (normal path) = .ok p ∧ t.entry p = some e

/-- A path leads to a place in a directory at which nothing stands. -/
structure Vacant (t : Tree) (path : Text) (p : Place) : Prop where
  plain : '\x00' ∉ path
  locate_eq : t.locate (normal path) = .ok p
  entry_eq : t.entry p = none

theorem Vacant.not_occupied {t : Tree} {path : Text} {p : Place} (h : t.Vacant path p) :
    ¬t.Occupied path := by
  rintro ⟨-, q, e, hlocate, hentry⟩
  rw [h.locate_eq] at hlocate
  cases hlocate
  rw [h.entry_eq] at hentry
  cases hentry

theorem Stores.occupied {t : Tree} {path s : Text} (h : t.Stores path s) : t.Occupied path := by
  obtain ⟨p, hlocate, hentry⟩ := entry_of_bytes h.bytes_eq
  exact ⟨h.plain, p, _, hlocate, hentry⟩

theorem stores_of_entry {t : Tree} {path s : Text} {p : Place} (hplain : '\x00' ∉ path)
    (hlocate : t.locate (normal path) = .ok p)
    (hentry : t.entry p = some (.file (Text.Utf8.encode s))) : t.Stores path s := by
  refine ⟨hplain, bind_eq_ok.mpr ⟨p, hlocate, ?_⟩⟩
  rw [hentry]

theorem Vacant.stores_put {t : Tree} {path : Text} {p : Place} (h : t.Vacant path p) (s : Text) :
    (t.put p (.file (Text.Utf8.encode s))).Stores path s := by
  apply stores_of_entry h.plain (locate_put h.entry_eq h.locate_eq)
  rw [entry_put, if_pos rfl]

end Files.Tree

namespace Source

variable {allowed : Bool} {path : Text} {t : Tree}

/-- What can come of reading a source file, and the files after it. -/
inductive Reads (allowed : Bool) (path : Text) (t : Tree) :
    Except SourceFault Text → Tree → Prop
  | nullCharacter (hallowed : allowed = true) (hnull : '\x00' ∈ path) :
      Reads allowed path t (.error .nullCharacter) t
  | longName (hplain : '\x00' ∉ path) (hlong : t.Overlong (normal path)) :
      Reads allowed path t (.error (.longName path)) t
  | notFound (hallowed : allowed = false) :
      Reads allowed path t (.error (.notFound path)) t
  | notCreated {r : Refusal} : Reads allowed path t (.error (.notCreated path r)) t
  | directory : Reads allowed path t (.error (.unreadable path .isDirectory)) t
  | undecodable {f : Text.Utf8.Fault} : Reads allowed path t (.error (.undecodable path f)) t
  | stored {s : Text} (hstores : t.Stores path s) : Reads allowed path t (.ok s.unifyBreaks) t
  | created {p : Place} (hallowed : allowed = true) (hvacant : t.Vacant path p) :
      Reads allowed path t (.ok first) (t.put p (.file (Text.Utf8.encode first)))

theorem read_of_null (hnull : '\x00' ∈ path) (allowed : Bool) (t : Tree) :
    read allowed path t = (.error (if allowed then .nullCharacter else .notFound path), t) := by
  have hcontains : path.contains '\x00' = true := by simpa using hnull
  rw [read, hcontains, if_pos rfl]

theorem read_of_overlong (hplain : '\x00' ∉ path) (hlong : t.Overlong (normal path))
    (allowed : Bool) : read allowed path t = (.error (.longName path), t) := by
  have hcontains : path.contains '\x00' = false := by simpa using hplain
  rw [read, hcontains, Tree.locate_eq_nameTooLong_iff.mpr hlong]
  rfl

theorem read_of_vacant {p : Place} (h : t.Vacant path p) :
    read true path t = (.ok first, t.put p (.file (Text.Utf8.encode first))) := by
  have hcontains : path.contains '\x00' = false := by simpa using h.plain
  simp only [read, hcontains, h.locate_eq, h.entry_eq]
  rfl

/-- Reading a source file does one of the listed things. -/
theorem reads_read (allowed : Bool) (path : Text) (t : Tree) :
    Reads allowed path t (read allowed path t).1 (read allowed path t).2 := by
  by_cases hnull : '\x00' ∈ path
  · rw [read_of_null hnull]
    cases allowed with
    | false => exact .notFound rfl
    | true => exact .nullCharacter rfl hnull
  · have hcontains : path.contains '\x00' = false := by simpa using hnull
    rw [read, hcontains, if_neg Bool.false_ne_true]
    split
    · rename_i hlocate
      exact .longName hnull (Tree.locate_eq_nameTooLong_iff.mp hlocate)
    · cases allowed with
      | false => exact .notFound rfl
      | true => exact .notCreated
    · rename_i p hlocate
      split
      · rename_i hentry
        cases allowed with
        | false => exact .notFound rfl
        | true => exact .created rfl ⟨hnull, hlocate, hentry⟩
      · exact .directory
      · rename_i bytes hentry
        dsimp only
        cases hdecode : decode bytes with
        | error f => exact .undecodable
        | ok text =>
            obtain ⟨s, rfl, rfl⟩ := exists_of_decode hdecode
            exact .stored (Tree.stores_of_entry hnull hlocate hentry)

variable {r : Except SourceFault Text} {t' : Tree}

theorem Reads.classified (h : Reads allowed path t r t') :
    (∃ text, r = .ok text) ∨
      (∃ f detail, r = .error f ∧
        f.report = .diagnostic ⟨.sourceFile, detail, .source none none⟩) ∨
      ∃ f m, r = .error f ∧ f.report = .mishap m := by
  cases h with
  | stored | created => exact .inl ⟨_, rfl⟩
  | notFound | notCreated | directory | undecodable => exact .inr (.inl ⟨_, _, rfl, rfl⟩)
  | nullCharacter | longName => exact .inr (.inr ⟨_, _, rfl, rfl⟩)

theorem read_eq_ok_iff {text : Text} :
    (read allowed path t).1 = .ok text ↔
      (∃ s, t.Stores path s ∧ text = s.unifyBreaks) ∨
        allowed = true ∧ (∃ p, t.Vacant path p) ∧ text = first := by
  constructor
  · intro hread
    have hreads := reads_read allowed path t
    rw [hread] at hreads
    generalize (read allowed path t).2 = after at hreads
    cases hreads with
    | stored hstores => exact .inl ⟨_, hstores, rfl⟩
    | created hallowed hvacant => exact .inr ⟨hallowed, ⟨_, hvacant⟩, rfl⟩
  · rintro (⟨s, hstores, rfl⟩ | ⟨rfl, ⟨p, hvacant⟩, rfl⟩)
    · rw [read_of_stores hstores]
    · rw [read_of_vacant hvacant]

theorem mishap_of_read_iff {m : Mishap} :
    (∃ f, (read allowed path t).1 = .error f ∧ f.report = .mishap m) ↔
      (allowed = true ∧ '\x00' ∈ path ∧ m = .nullCharacter) ∨
        '\x00' ∉ path ∧ t.Overlong (normal path) ∧ m = .longName (normal path) := by
  constructor
  · rintro ⟨f, hread, hreport⟩
    have hreads := reads_read allowed path t
    rw [hread] at hreads
    generalize (read allowed path t).2 = after at hreads
    cases hreads with
    | nullCharacter hallowed hnull =>
        cases hreport
        exact .inl ⟨hallowed, hnull, rfl⟩
    | longName hplain hlong =>
        cases hreport
        exact .inr ⟨hplain, hlong, rfl⟩
    | notFound | notCreated | directory | undecodable => cases hreport
  · rintro (⟨rfl, hnull, rfl⟩ | ⟨hplain, hlong, rfl⟩)
    · exact ⟨.nullCharacter, by rw [read_of_null hnull, if_pos rfl], rfl⟩
    · exact ⟨.longName path, by rw [read_of_overlong hplain hlong], rfl⟩

/-- Reading the source file at any path of any file tree gives a text, a diagnostic of source files,
or a mishap. It gives a text if the path leads to a file that holds one, or to a vacant place and
the file may be created there; and it is a mishap only if a file is to be created at a path with a
null character, or if a name is too long to look for. -/
theorem read_outcome (allowed : Bool) (path : Text) (t : Tree) :
    let outcome := (read allowed path t).1
    ((∃ text, outcome = .ok text) ∨
      (∃ f detail, outcome = .error f ∧
        f.report = .diagnostic ⟨.sourceFile, detail, .source none none⟩) ∨
      ∃ f m, outcome = .error f ∧ f.report = .mishap m) ∧
    (∀ text, outcome = .ok text ↔
      (∃ s, t.Stores path s ∧ text = s.unifyBreaks) ∨
        allowed = true ∧ (∃ p, t.Vacant path p) ∧ text = first) ∧
    ∀ m, (∃ f, outcome = .error f ∧ f.report = .mishap m) ↔
      (allowed = true ∧ '\x00' ∈ path ∧ m = .nullCharacter) ∨
        '\x00' ∉ path ∧ t.Overlong (normal path) ∧ m = .longName (normal path) :=
  ⟨(reads_read allowed path t).classified, fun _ => read_eq_ok_iff, fun _ => mishap_of_read_iff⟩

theorem read_overlong_name :
    let empty : Tree := ⟨[([], .directory)], []⟩
    (∃ f, (read true (List.replicate 256 'a') empty).1 = .error f ∧
      f.report = .mishap (.longName (List.replicate 256 'a'))) ∧
    ∃ f, (read true ['a', '\x00'] empty).1 = .error f ∧ f.report = .mishap .nullCharacter := by
  intro empty
  refine ⟨⟨.longName (List.replicate 256 'a'), ?_, ?_⟩, ⟨.nullCharacter, ?_, rfl⟩⟩
  · decide +kernel
  · decide +kernel
  · decide

theorem Reads.eq_of_error {f : SourceFault} (h : Reads allowed path t (.error f) t') : t' = t := by
  cases h <;> rfl

theorem Reads.eq_of_occupied (h : Reads allowed path t r t') (hoccupied : t.Occupied path) :
    t' = t := by
  cases h with
  | created hallowed hvacant => exact absurd hoccupied hvacant.not_occupied
  | _ => rfl

theorem Reads.eq_of_not_allowed (h : Reads false path t r t') : t' = t := by
  cases h with
  | created hallowed hvacant => cases hallowed
  | _ => rfl

theorem Reads.eq_put {text : Text} (h : Reads allowed path t (.ok text) t')
    (hfree : ¬t.Occupied path) :
    text = first ∧ ∃ p, t.Vacant path p ∧ t' = t.put p (.file (Text.Utf8.encode text)) := by
  cases h with
  | stored hstores => exact absurd hstores.occupied hfree
  | created hallowed hvacant => exact ⟨rfl, _, hvacant, rfl⟩

theorem unifyBreaks_first : first.unifyBreaks = first :=
  Text.unifyBreaks_eq_self (by decide)

theorem Reads.stores {text : Text} (h : Reads allowed path t (.ok text) t') :
    ∃ s, t'.Stores path s ∧ text = s.unifyBreaks := by
  cases h with
  | stored hstores => exact ⟨_, hstores, rfl⟩
  | created hallowed hvacant => exact ⟨first, hvacant.stores_put first, unifyBreaks_first.symm⟩

/-- Reading a source file changes no file if it fails, if something stands at the path, or if no
file may be created, and otherwise it creates one file. Whoever reads at the path again gets the
same text and changes nothing. -/
theorem read_preserves (allowed : Bool) (path : Text) (t : Tree) :
    let outcome := (read allowed path t).1
    let after := (read allowed path t).2
    (∀ f, outcome = .error f → after = t) ∧
    (t.Occupied path → after = t) ∧
    (allowed = false → after = t) ∧
    (∀ text, outcome = .ok text → ¬t.Occupied path →
      text = first ∧ after.here = t.here ∧ ∃ p, t.Vacant path p ∧
        ∀ q, after.entry q =
          if q = p then some (.file (Text.Utf8.encode text)) else t.entry q) ∧
    ∀ text, outcome = .ok text → ∀ again, read again path after = (.ok text, after) := by
  intro outcome after
  have hreads : Reads allowed path t outcome after := reads_read allowed path t
  refine ⟨?_, hreads.eq_of_occupied, ?_, ?_, ?_⟩
  · intro f hf
    rw [hf] at hreads
    exact hreads.eq_of_error
  · rintro rfl
    exact hreads.eq_of_not_allowed
  · intro text htext hfree
    rw [htext] at hreads
    obtain ⟨hfirst, p, hvacant, hput⟩ := hreads.eq_put hfree
    rw [hput]
    exact ⟨hfirst, rfl, p, hvacant, fun q => Tree.entry_put t p q _⟩
  · intro text htext again
    rw [htext] at hreads
    obtain ⟨s, hstores, rfl⟩ := hreads.stores
    exact read_of_stores hstores again

theorem read_preserves_created :
    let t : Tree := ⟨[([], .directory), (["d".toList], .directory)], []⟩
    let after := (read true ".//d/./p/".toList t).2
    (read true ".//d/./p/".toList t).1 = .ok first ∧ ¬t.Occupied ".//d/./p/".toList ∧
      after.entry ["p".toList, "d".toList] = some (.file (Text.Utf8.encode first)) ∧
      read false ".//d/./p/".toList after = (.ok first, after) := by
  intro t after
  have hok : (read true ".//d/./p/".toList t).1 = .ok first := by decide +kernel
  have hvacant : t.Vacant ".//d/./p/".toList ["p".toList, "d".toList] :=
    ⟨by decide, by decide +kernel, by decide⟩
  have hpreserves := read_preserves true ".//d/./p/".toList t
  obtain ⟨-, -, p, hp, hentry⟩ := hpreserves.2.2.2.1 first hok hvacant.not_occupied
  have hplace : p = ["p".toList, "d".toList] :=
    Except.ok.inj (hp.locate_eq.symm.trans hvacant.locate_eq)
  refine ⟨hok, hvacant.not_occupied, ?_, hpreserves.2.2.2.2 first hok false⟩
  rw [hentry, if_pos hplace.symm]

end Source

end LetterMachine
