import LetterMachine.Command.Word
import LetterMachine.Files.Path

namespace LetterMachine.Command

/-- The file to work on, the path of a configuration, and what else is asked for. -/
structure Request where
  input : Text
  config : Option Text := none
  verbose : Bool := false
  listing : Bool := false
  strict : Bool := false
  noRun : Bool := false
  deriving DecidableEq, Repr

/-- Why there is nothing to work on: help or the version is asked for, or the command line cannot be
followed. -/
inductive Stop where
  | help
  | version
  | misused (fault : UsageFault)
  deriving DecidableEq, Repr

namespace Request

/-- A request under way: the file may still be unknown, and words may have found no use. -/
structure Draft where
  input : Option Text := none
  request : Request := { input := [] }
  unrecognized : Array Text := #[]
  deriving DecidableEq, Repr

namespace Draft

/-- Set aside a word that has no use. -/
def setAside (d : Draft) (word : Text) : Draft :=
  { d with unrecognized := d.unrecognized.push word }

/-- Follow an option without a value. -/
def switch (d : Draft) : Flag → Except Stop Draft
  | .help => .error .help
  | .version => .error .version
  | .verbose => .ok { d with request := { d.request with verbose := true } }
  | .listing => .ok { d with request := { d.request with listing := true } }
  | .strict => .ok { d with request := { d.request with strict := true } }
  | .noRun => .ok { d with request := { d.request with noRun := true } }
  | .config => .ok d

/-- Follow an option with a value. Two hyphens for a value take an earlier value back. -/
def value (d : Draft) (f : Flag) (v : Text) : Draft :=
  match f with
  | .config =>
    { d with request := { d.request with config := if v = ['-', '-'] then none else some v } }
  | _ => d

/-- Read the words in order. The first operand is the file; a separator right in front of it or
right after it is passed over. -/
def read : List Word → Draft → Except Stop Draft
  | [], d => .ok d
  | .operand t :: .separator :: rest, d =>
    match d.input with
    | none => read rest { d with input := some t }
    | some _ => read rest ((d.setAside t).setAside ['-', '-'])
  | .operand t :: rest, d =>
    match d.input with
    | none => read rest { d with input := some t }
    | some _ => read rest (d.setAside t)
  | .separator :: .operand t :: rest, d =>
    match d.input with
    | none => read rest { d with input := some t }
    | some _ => read rest ((d.setAside ['-', '-']).setAside t)
  | .separator :: rest, d => read rest (d.setAside ['-', '-'])
  | .unknown t :: rest, d => read rest (d.setAside t)
  | .options (.error fault) :: _, _ => .error (.misused fault)
  | .options (.ok ⟨switches, .awaiting f⟩) :: .operand t :: rest, d => do
    read rest ((← switches.foldlM switch d).value f t)
  | .options (.ok ⟨switches, tail⟩) :: rest, d =>
    match tail with
    | .awaiting f => .error (.misused (.noValue f))
    | .nothing => do read rest (← switches.foldlM switch d)
    | .valued f v => do read rest ((← switches.foldlM switch d).value f v)

/-- The request of a finished draft. -/
def finish (d : Draft) : Except Stop Request :=
  match d.input with
  | none => .error (.misused .noInput)
  | some input =>
    if d.unrecognized.isEmpty then .ok { d.request with input := input }
    else .error (.misused (.unrecognized d.unrecognized.toList))

end Draft

/-- The paths that following a request looks at. -/
def paths (r : Request) : List Text := Files.normal r.input :: r.config.toList

/-- The request of a command line. -/
def ofTexts (args : List Text) : Except Stop Request :=
  match Word.ofTexts args with
  | .error fault => .error (.misused fault)
  | .ok words => do (← Draft.read words {}).finish

end Request

end LetterMachine.Command
