import LetterMachine.Text.Basic

namespace LetterMachine.Yaml

/-- A line of directives: a version, a tag handle with what it stands for, or anything else. -/
inductive Directive where
  | version (major minor : Nat)
  | tag (handle replacement : Text)
  | other
  deriving DecidableEq, Repr

/-- A token. The starts and ends of block collections stand where the indentation changes. -/
inductive Token where
  | streamEnd
  | directive (d : Directive)
  | documentStart
  | documentEnd
  | blockSequenceStart
  | blockMappingStart
  | blockEnd
  | flowSequenceStart
  | flowSequenceEnd
  | flowMappingStart
  | flowMappingEnd
  | blockEntry
  | flowEntry
  | key
  | value
  | alias (name : Text)
  | anchor (name : Text)
  | tag (handle : Option Text) (suffix : Text)
  | scalar (text : Text) (plain : Bool)
  deriving DecidableEq, Repr

end LetterMachine.Yaml
