import LetterMachine.Yaml.Refusal

namespace LetterMachine.Yaml

inductive Malformed where
  /-- A character that no document may hold. -/
  | character
  /-- A character that starts no token. -/
  | noToken
  /-- A key on a line of its own without its colon. -/
  | lostKey
  /-- An entry, a key or a value where none may stand. -/
  | misplaced
  /-- A line of directives. -/
  | directive
  /-- The name of an anchor or alias. -/
  | name
  /-- The spelling of a tag. -/
  | tag
  /-- The header of a block scalar. -/
  | header
  /-- A quoted scalar without its closing quote. -/
  | unclosed
  /-- An escape in a quoted scalar. -/
  | escape
  /-- Tokens in an order that no document has. -/
  | order
  /-- A tag whose handle is not declared. -/
  | unknownHandle
  /-- An alias without an anchor before it. -/
  | unknownAlias
  /-- An anchor whose name another anchor has. -/
  | repeatedAnchor
  /-- A second document. -/
  | severalDocuments
  /-- A tag for which there are no values. -/
  | unknownTag
  /-- A node that is not of the kind its tag asks for. -/
  | wrongKind
  /-- A collection as the key of a mapping. -/
  | collectionKey
  /-- A merge of something that is no mapping. -/
  | merge
  /-- Binary data that are not written in base 64. -/
  | binary
  deriving DecidableEq, Repr

inductive Error where
  | malformed (what : Malformed)
  | refused (refusal : Refusal)
  deriving DecidableEq, Repr

end LetterMachine.Yaml
