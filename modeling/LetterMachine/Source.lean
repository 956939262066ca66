import LetterMachine.Files.Tree
import LetterMachine.Report
import LetterMachine.Text.Lines

namespace LetterMachine

/-- Why there is no source text at a path. -/
inductive SourceFault where
  /-- There is no file, and none is to be created. -/
  | notFound (path : Text)
  /-- What the path leads to cannot be read. -/
  | unreadable (path : Text) (refusal : Files.Refusal)
  /-- The bytes of the file are no text. -/
  | undecodable (path : Text) (fault : Text.Utf8.Fault)
  /-- The file cannot be created. -/
  | notCreated (path : Text) (refusal : Files.Refusal)
  /-- The path, or a name in it, is too long to look for. -/
  | longName (path : Text)
  /-- A null character in the path of a file to be created. -/
  | nullCharacter
  deriving DecidableEq, Repr

namespace SourceFault

def report : SourceFault → Failure
  | notFound path => fault ("Input file not found: ".toList ++ path)
  | unreadable path r =>
    fault ("Error reading file '".toList ++ path ++ "': ".toList ++ r.on (Files.normal path))
  | undecodable path f =>
    fault ("Error reading file '".toList ++ path ++ "': ".toList ++ f.message)
  | notCreated path r =>
    fault ("Could not write to file '".toList ++ path ++ "': ".toList ++
      r.on (Files.normal path))
  | longName path => .mishap (.longName (Files.normal path))
  | nullCharacter => .mishap .nullCharacter
where
  fault (detail : Text) : Failure := .diagnostic ⟨.sourceFile, detail, .source none none⟩

end SourceFault

namespace Source

def first : Text := "MOV 1, 5\nMOV 2, 3\nADD 0, 1\nSUB 1, 2\nMUL 1, 2".toList

def decode (bytes : List UInt8) : Except Text.Utf8.Fault Text :=
  (Text.Utf8.decode bytes).map Text.unifyBreaks

/-- What to do when nothing stands at a path: create a file at the place, if there is one and if
files are to be created. -/
def create (allowed : Bool) (path : Text) (place : Except Files.Refusal Files.Place)
    (t : Files.Tree) : Except SourceFault Text × Files.Tree :=
  if !allowed then (.error (.notFound path), t)
  else match place with
    | .error r => (.error (.notCreated path r), t)
    | .ok p => (.ok first, t.put p (.file (Text.Utf8.encode first)))

/-- Read the source file at a path, or create it if that is allowed. -/
def read (allowed : Bool) (path : Text) (t : Files.Tree) :
    Except SourceFault Text × Files.Tree :=
  if path.contains '\x00' then
    (.error (if allowed then .nullCharacter else .notFound path), t)
  else match t.locate (Files.normal path) with
    | .error .nameTooLong => (.error (.longName path), t)
    | .error r => create allowed path (.error r) t
    | .ok p =>
      match t.entry p with
      | none => create allowed path (.ok p) t
      | some .directory => (.error (.unreadable path .isDirectory), t)
      | some (.file bytes) => ((decode bytes).mapError (.undecodable path), t)

end Source

end LetterMachine
