import LetterMachine.Listing

namespace LetterMachine

/-- The flags, the last program, and the entries of the last source text. -/
structure Workbench where
  flags : AssemblyFlags := {}
  program : Option Program := none
  entries : List SourceEntry := []
  deriving DecidableEq, Repr

namespace Workbench

def keep (w : Workbench) (a : Assembly) : Workbench :=
  { w with
    program := match a.result with
      | .ok p => some p
      | .error _ => w.program
    entries := a.entries }

def assemble (w : Workbench) (source : Text) : Assembly × Workbench :=
  let a := LetterMachine.assemble w.flags source
  (a, w.keep a)

/-- The listing of the last program, with the lines of the last source text. It is empty before the
first program. -/
def listing (w : Workbench) : Text :=
  match w.program with
  | none => []
  | some p => Listing.render p w.entries

end Workbench

end LetterMachine
