import LetterMachine.Yaml.Property
import LetterMachine.Yaml.Scalar.Block
import LetterMachine.Yaml.Scalar.Plain
import LetterMachine.Yaml.Scalar.Quoted

/-!
The stream of tokens of a document. A token is handed on once it is certain that no key indicator
belongs in front of it: a key without an indicator is known only by the colon after it.
-/

namespace LetterMachine.Yaml

/-- A token that may turn out to be the start of a key: its number in the stream, whether it must be
one, and where it stands. -/
structure KeyStart where
  number : Nat
  required : Bool
  index : Nat
  line : Nat
  column : Nat
  deriving DecidableEq, Repr

/-- A reading under way: the place reached, the depth of brackets, the indentations of the open
block collections, whether a key may start here, the possible key at each depth of brackets, and the
tokens that are not handed on yet, after a number of those that are. -/
structure Reader where
  cursor : Cursor
  depth : Int := 0
  indent : Int := -1
  indents : List Int := []
  keyAllowed : Bool := true
  keys : List (Int × KeyStart) := []
  taken : Nat := 0
  queue : List Token := []
  finished : Bool := false
  deriving DecidableEq, Repr

namespace Reader

def inFlow (r : Reader) : Bool := r.depth != 0

/-- Whether a possible key is past its line or too long ago. -/
def isStale (r : Reader) (k : KeyStart) : Bool :=
  k.line != r.cursor.line || 1024 < r.cursor.index - k.index

/-- Give up the keys that are not possible any more. -/
def dropStale (r : Reader) : Except Error Reader :=
  if r.keys.any fun k => r.isStale k.2 && k.2.required then .error (.malformed .lostKey)
  else .ok { r with keys := r.keys.filter fun k => !r.isStale k.2 }

/-- Give up the possible key at this depth. -/
def dropKey (r : Reader) : Except Error Reader :=
  match r.keys.lookup r.depth with
  | none => .ok r
  | some k =>
    if k.required then .error (.malformed .lostKey)
    else .ok { r with keys := r.keys.filter fun k => k.1 != r.depth }

/-- Keep the next token as a possible key if a key may start here. Outside brackets it must be one
if it stands at the indentation of the open collection. -/
def saveKey (r : Reader) : Except Error Reader :=
  if r.keyAllowed then do
    let r ← r.dropKey
    let k := r.cursor
    let start : KeyStart :=
      ⟨r.taken + r.queue.length, !r.inFlow && r.indent == (k.column : Int), k.index, k.line,
        k.column⟩
    return { r with keys := r.keys ++ [(r.depth, start)] }
  else .ok r

def push (r : Reader) (t : Token) : Reader := { r with queue := r.queue ++ [t] }

/-- Allow or forbid a key to start here. -/
def allowKey (r : Reader) (allowed : Bool) : Reader := { r with keyAllowed := allowed }

/-- Close the block collections that are indented further than a column. -/
def unwind (r : Reader) (column : Int) : Reader :=
  if r.inFlow then r
  else
    let closed := (r.indent :: r.indents).takeWhile fun i => decide (column < i)
    let indents := r.indents.drop (closed.length - 1)
    if closed.isEmpty then r
    else
      { r with
        queue := r.queue ++ List.replicate closed.length .blockEnd
        indent := indents.head?.getD (-1)
        indents := indents.tail }

/-- Open a block collection at a column, if that lies further in than the open one. -/
def openAt (r : Reader) (column : Int) : Option Reader :=
  if r.indent < column then some { r with indent := column, indents := r.indent :: r.indents }
  else none

def skip (r : Reader) (n : Nat) : Reader := { r with cursor := r.cursor.skip n }

def scan {α : Type} (r : Reader) (s : Scan α) : Except Error (α × Reader) := do
  let (a, cursor) ← s.run r.cursor
  return (a, { r with cursor := cursor })

/-- Pass over blanks, comments and breaks. After a break outside brackets a key may start. -/
def skipBlank : Nat → Reader → Reader
  | 0, r => r
  | n + 1, r =>
    match r.scan (do Scan.skipSpaces; Scan.skipComment; Scan.lineBreak) with
    | .error _ => r
    | .ok (b, r') =>
      if b.isEmpty then r' else skipBlank n { r' with keyAllowed := r'.keyAllowed || !r'.inFlow }

def openFlow (r : Reader) (t : Token) : Except Error Reader := do
  let r ← r.saveKey
  return (({ r with depth := r.depth + 1 }.allowKey true).skip 1).push t

def closeFlow (r : Reader) (t : Token) : Except Error Reader := do
  let r ← r.dropKey
  return (({ r with depth := r.depth - 1 }.allowKey false).skip 1).push t

def flowEntry (r : Reader) : Except Error Reader := do
  let r ← (r.allowKey true).dropKey
  return (r.skip 1).push .flowEntry

/-- Open a block collection at the place reached, where one may start. -/
def startBlock (r : Reader) (t : Token) : Except Error Reader :=
  if r.inFlow then .ok r
  else if !r.keyAllowed then .error (.malformed .misplaced)
  else .ok (match r.openAt r.cursor.column with
    | some r => r.push t
    | none => r)

def blockEntry (r : Reader) : Except Error Reader := do
  let r ← r.startBlock .blockSequenceStart
  let r ← (r.allowKey true).dropKey
  return (r.skip 1).push .blockEntry

/-- A key with its indicator. -/
def key (r : Reader) : Except Error Reader := do
  let r ← r.startBlock .blockMappingStart
  let r ← (r.allowKey (!r.inFlow)).dropKey
  return (r.skip 1).push .key

/-- A value. If a possible key stands before it at this depth, that is a key, and it opens a block
mapping if it stands further in than the open collection. -/
def value (r : Reader) : Except Error Reader := do
  match r.keys.lookup r.depth with
  | some k =>
    let place := k.number - r.taken
    let r := { r with
      keys := r.keys.filter fun k => k.1 != r.depth
      queue := r.queue.insertIdx place .key
      keyAllowed := false }
    let r :=
      if r.inFlow then r
      else match r.openAt k.column with
        | some r => { r with queue := r.queue.insertIdx place .blockMappingStart }
        | none => r
    return (r.skip 1).push .value
  | none =>
    let r ← r.startBlock .blockMappingStart
    let r ← (r.allowKey (!r.inFlow)).dropKey
    return (r.skip 1).push .value

/-- A token that may be a key, read by the given rule. -/
def keyable (r : Reader) (s : Scan Token) : Except Error Reader := do
  let r ← r.saveKey
  let (t, r) ← (r.allowKey false).scan s
  return r.push t

/-- A plain scalar. A key may start after it if it ended at the start of a line. -/
def plain (r : Reader) : Except Error Reader := do
  let r ← r.saveKey
  let ((t, crossed), r) ← r.scan (Plain.read r.inFlow (r.indent + 1))
  return (r.allowKey crossed).push (.scalar t true)

/-- A block scalar, after which a key may start. -/
def blockScalar (r : Reader) (folded : Bool) : Except Error Reader := do
  let r ← (r.allowKey true).dropKey
  let (t, r) ← r.scan (Block.read folded r.indent)
  return r.push (.scalar t false)

/-- A mark that closes all block collections: of three characters, or a line of directives. -/
def atMargin (r : Reader) : Except Error Reader := do
  let r ← (r.unwind (-1)).dropKey
  return r.allowKey false

def finish (r : Reader) : Except Error Reader := do
  let r ← r.atMargin
  return { (r.push .streamEnd) with keys := [], finished := true }

/-- Whether a plain scalar may start here. -/
def startsPlain (r : Reader) (c : Char) (next : Option Char) : Bool :=
  !(isGap (some c) || indicators.contains c) ||
    (!isGap next && (c == '-' || (!r.inFlow && (c == '?' || c == ':'))))

/-- Read on to the next token, and append it with what has to stand in front of it. -/
def fetch (r : Reader) : Except Error Reader := do
  let r ← (skipBlank (r.cursor.rest.length + 1) r).dropStale
  let k := r.cursor
  let r := r.unwind k.column
  match k.rest with
  | [] => r.finish
  | c :: rest =>
    let next := rest.head?
    let margin := k.column == 0
    let marks (m : Char) : Bool := margin && k.rest.take 3 == [m, m, m] && isGap k.rest[3]?
    if c == '%' && margin then do
      let (d, r) ← (← r.atMargin).scan Property.directive
      return r.push (.directive d)
    else if marks '-' then return ((← r.atMargin).skip 3).push .documentStart
    else if marks '.' then return ((← r.atMargin).skip 3).push .documentEnd
    else if c == '[' then r.openFlow .flowSequenceStart
    else if c == '{' then r.openFlow .flowMappingStart
    else if c == ']' then r.closeFlow .flowSequenceEnd
    else if c == '}' then r.closeFlow .flowMappingEnd
    else if c == ',' then r.flowEntry
    else if c == '-' && isGap next then r.blockEntry
    else if c == '?' && (r.inFlow || isGap next) then r.key
    else if c == ':' && (r.inFlow || isGap next) then r.value
    else if c == '*' then r.keyable (Token.alias <$> Property.name)
    else if c == '&' then r.keyable (Token.anchor <$> Property.name)
    else if c == '!' then r.keyable Property.tag
    else if c == '|' && !r.inFlow then r.blockScalar false
    else if c == '>' && !r.inFlow then r.blockScalar true
    else if c == '\'' then r.keyable ((Token.scalar · false) <$> Quoted.read false)
    else if c == '"' then r.keyable ((Token.scalar · false) <$> Quoted.read true)
    else if r.startsPlain c next then r.plain
    else .error (.malformed .noToken)

/-- The number of the first token that may be a key. -/
def firstKey? (r : Reader) : Option Nat := (r.keys.map fun k => k.2.number).min?

/-- Hand on the tokens one by one. Before each the reader goes on until the token is there and no
key indicator can come in front of it any more. -/
def drain : Nat → Reader → List Token → List Token × Option Error
  | 0, _, done => (done.reverse, none)
  | n + 1, r, done =>
    if r.finished && r.queue.isEmpty then (done.reverse, none)
    else
      match (if r.finished || r.queue.isEmpty then .ok r else r.dropStale) with
      | .error e => (done.reverse, some e)
      | .ok r =>
        if !r.finished && (r.queue.isEmpty || r.firstKey? == some r.taken) then
          match r.fetch with
          | .error e => (done.reverse, some e)
          | .ok r => drain n r done
        else
          match r.queue with
          | [] => (done.reverse, none)
          | t :: queue => drain n { r with queue := queue, taken := r.taken + 1 } (t :: done)

end Reader

/-- Whether a document may hold a character. -/
def isAllowed (c : Char) : Bool :=
  CodeRanges.has
    [(0x09, 0x0A), (0x0D, 0x0D), (0x20, 0x7E), (0x85, 0x85), (0xA0, 0xD7FF), (0xE000, 0xFFFD),
      (0x10000, 0x10FFFF)] c

/-- The tokens of a document, up to the fault at which its reading ends. A byte order mark at the
start is passed over. -/
def tokens (t : Text) : List Token × Option Error :=
  if !t.all isAllowed then ([], some (.malformed .character))
  else
    let k : Cursor := ⟨t, 0, 0, 0⟩
    let start := if t.head? == some '\uFEFF' then k.next else k
    Reader.drain (8 * t.length + 16) { cursor := start } []

end LetterMachine.Yaml
