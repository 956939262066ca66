import LetterMachine.Files.Path
import LetterMachine.Text.Quoted

/-!
File trees: directories and files by their places, and the place that a path leads to from a working
directory.
-/

namespace LetterMachine.Files

/-- The names on the way from the root to a place, the last one first. -/
abbrev Place := List Text

/-- What stands at a place. -/
inductive Entry where
  | directory
  | file (bytes : List UInt8)
  deriving DecidableEq, Repr

/-- What stands at every place, and the working directory. -/
structure Tree where
  entries : List (Place × Entry)
  here : Place
  deriving DecidableEq, Repr

/-- Why a path cannot be followed or what it leads to cannot be opened. -/
inductive Refusal where
  | missing
  | notDirectory
  | isDirectory
  | nameTooLong
  deriving DecidableEq, Repr

/-- What is said of a refusal. -/
def Refusal.message : Refusal → Text
  | missing => "[Errno 2] No such file or directory".toList
  | notDirectory => "[Errno 20] Not a directory".toList
  | isDirectory => "[Errno 21] Is a directory".toList
  | nameTooLong => "[Errno 36] File name too long".toList

/-- What is said when a path is refused. -/
def Refusal.on (r : Refusal) (path : Text) : Text := r.message ++ ':' :: ' ' :: path.quoted

namespace Tree

/-- What stands at a place, if anything. -/
def entry (t : Tree) (p : Place) : Option Entry := t.entries.lookup p

/-- The tree with an entry at a place. -/
def put (t : Tree) (p : Place) (e : Entry) : Tree := { t with entries := (p, e) :: t.entries }

theorem entry_put (t : Tree) (p q : Place) (e : Entry) :
    (t.put p e).entry q = if q = p then some e else t.entry q := by
  by_cases h : q = p
  · simp [entry, put, h]
  · have : (q == p) = false := by simpa using h
    simp [entry, put, List.lookup_cons, h, this]

/-- Go from a place, which has to be a directory, by one name. -/
def follow (t : Tree) (p : Place) (name : Text) : Except Refusal Place :=
  match t.entry p with
  | none => .error .missing
  | some (.file _) => .error .notDirectory
  | some .directory =>
    if isIdle name then .ok p
    else if name = ['.', '.'] then .ok p.tail
    else if maxName < byteLength name then .error .nameTooLong
    else .ok (name :: p)

/-- The place that a path leads to. Nothing needs to stand there, but all places on the way have to
be directories. -/
def locate (t : Tree) (path : Text) : Except Refusal Place :=
  if path.isEmpty then .error .missing
  else if maxPath < byteLength path then .error .nameTooLong
  else (names path).foldlM t.follow (if isAbsolute path then [] else t.here)

/-- The places that a path may pass through or lead to, with none of them looked at. -/
def passed (t : Tree) (path : Text) : List Place :=
  ((names path).foldl (fun (p, met) name =>
    let q :=
      if isIdle name then p
      else if name = ['.', '.'] then p.tail
      else name :: p
    (q, q :: met)) ((if isAbsolute path then [] else t.here), [])).2

/-- The bytes of the file that a path leads to. -/
def bytes (t : Tree) (path : Text) : Except Refusal (List UInt8) := do
  match t.entry (← t.locate path) with
  | none => .error .missing
  | some .directory => .error .isDirectory
  | some (.file bytes) => .ok bytes

/-- The places at which a later tree has a file that an earlier one has not, or with other bytes. -/
def changes (before after : Tree) : List (Place × List UInt8) :=
  (after.entries.map Prod.fst).eraseDups.filterMap fun p =>
    match after.entry p with
    | some (.file bytes) =>
      if before.entry p = some (.file bytes) then none else some (p, bytes)
    | _ => none

end Tree

end LetterMachine.Files
