import LetterMachine.Yaml.Shape
import LetterMachine.Yaml.Stream

/-!
The nodes of a document. They form a graph, since an alias stands for the very node with its anchor.
-/

namespace LetterMachine.Yaml

/-- What a node holds: a text, or the numbers of other nodes. -/
inductive Content where
  | scalar (text : Text)
  | sequence (items : List Nat)
  | mapping (pairs : List (Nat × Nat))
  deriving DecidableEq, Repr

structure Node where
  tag : Tag
  content : Content
  deriving DecidableEq, Repr

/-- A reading of tokens under way: the tokens to come and the fault that ends them, the declared tag
handles, the nodes so far, the anchored ones among them, and how many more collections may be opened
around the next token. -/
structure Composer where
  tokens : List Token
  ending : Option Error
  handles : List (Text × Text) := []
  nodes : Array Node := #[]
  anchors : List (Text × Nat) := []
  room : Nat

/-- A reading of part of the tokens. -/
abbrev Compose := StateT Composer (Except Error)

namespace Compose

def fail {α : Type} (what : Malformed) : Compose α := throw (.malformed what)

def peek : Compose Token := do
  let c ← get
  match c.tokens, c.ending with
  | t :: _, _ => return t
  | [], some e => throw e
  | [], none => fail .order

def drop : Compose Unit := do
  let _ ← peek
  modify fun c => { c with tokens := c.tokens.tail }

def accept (t : Token) : Compose Bool := do
  if (← peek) == t then
    drop
    return true
  else return false

/-- Whether the next token is one of those given. -/
def nextIn (ts : List Token) : Compose Bool := return ts.contains (← peek)

def add (n : Node) : Compose Nat := do
  let c ← get
  set { c with nodes := c.nodes.push n }
  return c.nodes.size

def fill (id : Nat) (content : Content) : Compose Unit :=
  modify fun c => { c with nodes := c.nodes.modify id fun n => { n with content := content } }

/-- The node that stands where none is written. -/
def emptyNode : Compose Nat := add ⟨Shape.tag [], .scalar []⟩

/-- An anchor and a tag in front of a node, in either order. -/
def properties : Compose (Option Text × Option (Option Text × Text)) := do
  match ← peek with
  | .anchor name =>
    drop
    match ← peek with
    | .tag handle suffix =>
      drop
      return (some name, some (handle, suffix))
    | _ => return (some name, none)
  | .tag handle suffix =>
    drop
    match ← peek with
    | .anchor name =>
      drop
      return (some name, some (handle, suffix))
    | _ => return (none, some (handle, suffix))
  | _ => return (none, none)

/-- The full name of a tag. -/
def fullTag : Option (Option Text × Text) → Compose (Option Text)
  | none => return none
  | some (none, suffix) => return some suffix
  | some (some handle, suffix) => do
    match (← get).handles.lookup handle with
    | some replacement => return some (replacement ++ suffix)
    | none => fail .unknownHandle

/-- The tag of a node with the given full name. A node without a tag, or with a lone exclamation
mark, has the tag of its own shape. -/
def tagOr (name : Option Text) (own : Tag) : Tag :=
  match name with
  | none => own
  | some t => if t = ['!'] then own else Tag.ofText t

/-- Refuse an anchor that another node has. -/
def checkAnchor (anchor : Option Text) : Compose Unit := do
  if let some name := anchor then
    if ((← get).anchors.lookup name).isSome then fail .repeatedAnchor

/-- Keep the number of an anchored node. -/
def keepAnchor (anchor : Option Text) (id : Nat) : Compose Unit := do
  if let some name := anchor then
    modify fun c => { c with anchors := (name, id) :: c.anchors }

/-- Add an anchored node and give its number. -/
def addAnchored (anchor : Option Text) (n : Node) : Compose Nat := do
  checkAnchor anchor
  let id ← add n
  keepAnchor anchor id
  return id

/-- Read the parts of a collection, if there is room for it. -/
def inside {α : Type} (parts : Compose α) : Compose α := do
  match (← get).room with
  | 0 => throw (.refused .tooDeep)
  | room + 1 =>
    modify fun c => { c with room := room }
    let a ← parts
    modify fun c => { c with room := room + 1 }
    return a

mutual

/-- A node. Block collections are taken only outside brackets, and a sequence that is not indented
only where the value of a mapping may stand. -/
def node : Nat → Bool → Bool → Compose Nat
  | 0, _, _ => fail .order
  | n + 1, block, indentless => do
    if let .alias name ← peek then
      drop
      match (← get).anchors.lookup name with
      | some id => return id
      | none => fail .unknownAlias
    else
      let (anchor, written) ← properties
      let name ← fullTag written
      let start (own : Tag) (content : Content) : Compose Nat :=
        addAnchored anchor ⟨tagOr name own, content⟩
      match ← peek with
      | .scalar text plain =>
        drop
        let own := if plain || name.isSome then Shape.tag text else .str
        start own (.scalar text)
      | .flowSequenceStart =>
        let id ← start .seq (.sequence [])
        drop
        fill id (.sequence (← inside (flowItems n true)))
        return id
      | .flowMappingStart =>
        let id ← start .map (.mapping [])
        drop
        fill id (.mapping (← inside (flowPairs n true)))
        return id
      | t =>
        if indentless && t == .blockEntry then
          let id ← start .seq (.sequence [])
          fill id (.sequence (← inside (indentlessItems n)))
          return id
        else if block && t == .blockSequenceStart then
          let id ← start .seq (.sequence [])
          drop
          fill id (.sequence (← inside (blockItems n)))
          return id
        else if block && t == .blockMappingStart then
          let id ← start .map (.mapping [])
          drop
          fill id (.mapping (← inside (blockPairs n)))
          return id
        else if anchor.isSome || name.isSome then start (Shape.tag []) (.scalar [])
        else fail .order

/-- A node, or the empty one if one of the given tokens comes next. -/
def nodeOr (n : Nat) (block indentless : Bool) (ends : List Token) : Compose Nat :=
  match n with
  | 0 => fail .order
  | n + 1 => do if ← nextIn ends then emptyNode else node n block indentless

def blockItems : Nat → Compose (List Nat)
  | 0 => fail .order
  | n + 1 => do
    if ← accept .blockEntry then
      let item ← nodeOr n true false [.blockEntry, .blockEnd]
      return item :: (← blockItems n)
    else if ← accept .blockEnd then return []
    else fail .order

/-- The items of a sequence that is not indented. It ends where no further entry comes. -/
def indentlessItems : Nat → Compose (List Nat)
  | 0 => fail .order
  | n + 1 => do
    if ← accept .blockEntry then
      let item ← nodeOr n true false [.blockEntry, .key, .value, .blockEnd]
      return item :: (← indentlessItems n)
    else return []

def blockPairs : Nat → Compose (List (Nat × Nat))
  | 0 => fail .order
  | n + 1 => do
    if ← accept .key then
      let key ← nodeOr n true true [.key, .value, .blockEnd]
      let value ←
        if ← accept .value then nodeOr n true true [.key, .value, .blockEnd] else emptyNode
      return (key, value) :: (← blockPairs n)
    else if ← accept .blockEnd then return []
    else fail .order

/-- A value inside brackets, or the empty node. -/
def flowValue (n : Nat) (close : Token) : Compose Nat :=
  match n with
  | 0 => fail .order
  | n + 1 => do
    if ← accept .value then nodeOr n false false [.flowEntry, close] else emptyNode

/-- The items of a sequence in brackets, from the first or from a comma on. A single pair is a
mapping. -/
def flowItems : Nat → Bool → Compose (List Nat)
  | 0, _ => fail .order
  | n + 1, first => do
    if ← accept .flowSequenceEnd then return []
    if !first then
      if !(← accept .flowEntry) then fail .order
    if (← peek) == .key then
      let id ← add ⟨.map, .mapping []⟩
      drop
      let pair ← inside do
        let key ← nodeOr n false false [.value, .flowEntry, .flowSequenceEnd]
        return (key, ← flowValue n .flowSequenceEnd)
      fill id (.mapping [pair])
      return id :: (← flowItems n false)
    else if ← accept .flowSequenceEnd then return []
    else
      let item ← node n false false
      return item :: (← flowItems n false)

/-- The pairs of a mapping in braces, from the first or from a comma on. A node without a key
indicator is a key without a value. -/
def flowPairs : Nat → Bool → Compose (List (Nat × Nat))
  | 0, _ => fail .order
  | n + 1, first => do
    if ← accept .flowMappingEnd then return []
    if !first then
      if !(← accept .flowEntry) then fail .order
    if ← accept .key then
      let key ← nodeOr n false false [.value, .flowEntry, .flowMappingEnd]
      let value ← flowValue n .flowMappingEnd
      return (key, value) :: (← flowPairs n false)
    else if ← accept .flowMappingEnd then return []
    else
      let key ← node n false false
      let value ← emptyNode
      return (key, value) :: (← flowPairs n false)

end

/-- The handles that need no declaration. -/
def defaultHandles : List (Text × Text) := [(['!'], ['!']), (['!', '!'], Tag.standard)]

/-- The lines of directives in front of a document. -/
def directives : Nat → Bool → List (Text × Text) → Compose (List (Text × Text))
  | 0, _, handles => return handles
  | n + 1, versioned, handles => do
    match ← peek with
    | .directive d =>
      drop
      match d with
      | .version major _ =>
        if versioned || major != 1 then fail .directive
        directives n true handles
      | .tag handle replacement =>
        if (handles.lookup handle).isSome then fail .directive
        directives n versioned (handles ++ [(handle, replacement)])
      | .other => directives n versioned handles
    | _ => return handles

def documentEnds : Nat → Compose Unit
  | 0 => return
  | n + 1 => do
    if ← accept .documentEnd then documentEnds n

/-- The root of the document, if there is one. It may start without a mark if it has no directives.
-/
def root (n : Nat) : Compose (Option Nat) := do
  match ← peek with
  | .streamEnd => return none
  | .directive _ | .documentStart =>
    let handles ← directives n false []
    modify fun c => { c with handles := handles ++ defaultHandles }
    if !(← accept .documentStart) then fail .order
    match ← peek with
    | .directive _ | .documentStart | .documentEnd | .streamEnd => return some (← emptyNode)
    | _ => return some (← node n true false)
  | _ =>
    modify fun c => { c with handles := defaultHandles }
    return some (← node n true false)

/-- The only document of a stream. -/
def document (n : Nat) : Compose (Option Nat) := do
  match ← root n with
  | none => return none
  | some id =>
    documentEnds n
    if ← nextIn [.streamEnd] then return some id
    let _ ← directives n false []
    fail .severalDocuments

end Compose

structure Graph where
  nodes : Array Node
  root : Option Nat
  deriving DecidableEq, Repr

/-- The graph of a document in which collections are nested no deeper than so many levels. -/
def graph (depth : Nat) (t : Text) : Except Error Graph := do
  let (tokens, ending) := tokens t
  let (root, c) ← (Compose.document (4 * tokens.length + 8)).run
    { tokens := tokens, ending := ending, room := depth }
  return ⟨c.nodes, root⟩

end LetterMachine.Yaml
