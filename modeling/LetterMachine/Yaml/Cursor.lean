import LetterMachine.Yaml.Error

namespace LetterMachine.Yaml

def isBreak (c : Char) : Bool :=
  c == '\n' || c == '\r' || c == '\u0085' || c == '\u2028' || c == '\u2029'

def endsLine (c : Option Char) : Bool := c.all isBreak

/-- Whether a line ends here or a space stands here. -/
def endsWord (c : Option Char) : Bool := c.all fun c => c == ' ' || isBreak c

/-- Whether a line ends here or a space or a tab stands here. -/
def isGap (c : Option Char) : Bool := c.all fun c => c == ' ' || c == '\t' || isBreak c

def isOneOf (c : Option Char) (cs : List Char) : Bool := c.any cs.contains

/-- The characters that separate and enclose the items of a flow collection. -/
def flowIndicators : List Char := [',', '[', ']', '{', '}']

/-- The characters that no plain scalar starts with, unless a word goes on after the first three. -/
def indicators : List Char :=
  "-?:#&*!|>'\"%@\x60".toList ++ flowIndicators

/-- Whether a character may stand in the name of an anchor, a directive or a tag handle. -/
def isNameChar (c : Char) : Bool :=
  ('0' ≤ c && c ≤ '9') || ('A' ≤ c && c ≤ 'Z') || ('a' ≤ c && c ≤ 'z') || c == '-' || c == '_'

/-- What is still to be read, and how many characters, lines and columns lie before it. -/
structure Cursor where
  rest : Text
  index : Nat := 0
  line : Nat := 0
  column : Nat := 0
  deriving DecidableEq, Repr

namespace Cursor

/-- One character further. A byte order mark takes no column. -/
def next (k : Cursor) : Cursor :=
  match k.rest with
  | [] => k
  | c :: rest =>
    if isBreak c && !(c == '\r' && rest.head? == some '\n') then
      ⟨rest, k.index + 1, k.line + 1, 0⟩
    else ⟨rest, k.index + 1, k.line, if c = '\uFEFF' then k.column else k.column + 1⟩

def skip : Nat → Cursor → Cursor
  | 0, k => k
  | n + 1, k => skip n k.next

end Cursor

/-- A reading of part of a document. -/
abbrev Scan := StateT Cursor (Except Error)

namespace Scan

def fail {α : Type} (what : Malformed) : Scan α := throw (.malformed what)

def peek (n : Nat) : Scan (Option Char) := return (← get).rest[n]?

/-- Go a number of characters further. -/
def skip (n : Nat) : Scan Unit := modify (Cursor.skip n)

def takeWhile (p : Char → Bool) : Scan Text := do
  let t := (← get).rest.takeWhile p
  skip t.length
  return t

def skipWhile (p : Char → Bool) : Scan Unit := do
  let _ ← takeWhile p

def skipSpaces : Scan Unit := skipWhile (· == ' ')

def skipComment : Scan Unit := do
  if (← peek 0) == some '#' then skipWhile fun c => !isBreak c

/-- Read a line break, if one stands here. The line and paragraph separators are kept, and every
other break is a line feed. -/
def lineBreak : Scan Text := do
  match (← get).rest with
  | '\r' :: '\n' :: _ =>
    skip 2
    return ['\n']
  | c :: _ =>
    if isBreak c then
      skip 1
      return [if c = '\u2028' ∨ c = '\u2029' then c else '\n']
    else return []
  | [] => return []

/-- Whether a line that starts or ends a document starts here. -/
def atSeparator : Scan Bool := do
  let rest := (← get).rest
  let mark := rest.take 3
  return (mark == ['-', '-', '-'] || mark == ['.', '.', '.']) && isGap rest[3]?

/-- Pass over the rest of a line that may only hold spaces and a comment. -/
def endLine (what : Malformed) : Scan Unit := do
  skipSpaces
  skipComment
  if endsLine (← peek 0) then
    let _ ← lineBreak
  else fail what

end Scan

end LetterMachine.Yaml
