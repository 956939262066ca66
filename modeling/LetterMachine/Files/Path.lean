import LetterMachine.Text.Utf8

namespace LetterMachine.Files

/-- The names between the slashes of a path. Two slashes in a row, or one at an end, have an empty
name between or beside them. -/
def names (path : Text) : List Text := path.splitOn '/'

/-- Whether a path starts at the root. -/
def isAbsolute (path : Text) : Bool := path.head? == some '/'

/-- Whether a name leads nowhere else. -/
def isIdle (name : Text) : Bool := name == [] || name == ['.']

/-- The slashes that stay in front of a path in normal form: exactly two stay two, and more become
one. -/
def rootMark (path : Text) : Text :=
  match path.takeWhile (· == '/') with
  | [] => []
  | ['/', '/'] => ['/', '/']
  | _ => ['/']

/-- A path without the names that lead nowhere. A name that leads to the parent stays. -/
def normal (path : Text) : Text :=
  match rootMark path, (names path).filter fun n => !isIdle n with
  | [], [] => ['.']
  | mark, ns => mark ++ ['/'].intercalate ns

/-- The number of bytes that a name or a path takes. -/
def byteLength (t : Text) : Nat := (Text.Utf8.encode t).length

/-- The most bytes that a name may take. -/
def maxName : Nat := 255

/-- The most bytes that a path may take. -/
def maxPath : Nat := 4095

end LetterMachine.Files
