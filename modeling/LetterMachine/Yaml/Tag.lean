import LetterMachine.Text.Basic

namespace LetterMachine.Yaml

/-- The tags of the standard, and all others. -/
inductive Tag where
  | null
  | bool
  | int
  | float
  | binary
  | timestamp
  | orderedMap
  | pairs
  | set
  | str
  | seq
  | map
  | merge
  | value
  | other
  deriving DecidableEq, Repr

/-- What the tags of the standard start with. -/
def Tag.standard : Text := "tag:yaml.org,2002:".toList

/-- The names of the tags after what they start with. -/
def Tag.names : List (Text × Tag) :=
  [("null".toList, .null), ("bool".toList, .bool), ("int".toList, .int), ("float".toList, .float),
    ("binary".toList, .binary), ("timestamp".toList, .timestamp), ("omap".toList, .orderedMap),
    ("pairs".toList, .pairs), ("set".toList, .set), ("str".toList, .str), ("seq".toList, .seq),
    ("map".toList, .map), ("merge".toList, .merge), ("value".toList, .value)]

def Tag.ofText (t : Text) : Tag :=
  if standard.isPrefixOf t then (names.lookup (t.drop standard.length)).getD .other else .other

end LetterMachine.Yaml
