import LetterMachine.Yaml.Binary
import LetterMachine.Yaml.Graph
import LetterMachine.Yaml.Loader
import LetterMachine.Yaml.Number

namespace LetterMachine.Yaml

namespace Scalar

/-- Whether two values are the same key of a mapping. Numbers are compared by their size, truth
values as zero and one. -/
def sameKey : Scalar → Scalar → Bool
  | null, null => true
  | bool a, bool b => a == b
  | bool a, int b | int b, bool a => (if a then 1 else 0) == b
  | int a, int b => a == b
  | float a, float b => a == b
  | float a, int b | int b, float a => a == Float.ofInt b
  | float a, bool b | bool b, float a => a == if b then 1.0 else 0.0
  | str a, str b => a == b
  | bytes a, bytes b => a == b
  | timestamp a, timestamp b => a == b
  | _, _ => false

end Scalar

/-- A mapping with another pair: a key that it has keeps its place and gets the new value. -/
def put (pairs : List (Scalar × Value)) (key : Scalar) (value : Value) : List (Scalar × Value) :=
  if pairs.any fun p => p.1.sameKey key then
    pairs.map fun p => if p.1.sameKey key then (p.1, value) else p
  else pairs ++ [(key, value)]

/-- An evaluation under way: the nodes, and the collections that have been met and are still to be
looked through. -/
structure Evaluation where
  nodes : Array Node
  met : List Nat := []
  waiting : List Nat := []

/-- An evaluation of part of a document. -/
abbrev Evaluate := StateT Evaluation (Except Error)

namespace Evaluate

def fail {α : Type} (what : Malformed) : Evaluate α := throw (.malformed what)

def node (id : Nat) : Evaluate Node := do
  match (← get).nodes[id]? with
  | some n => return n
  | none => fail .order

def change (id : Nat) (f : Node → Node) : Evaluate Unit :=
  modify fun s => { s with nodes := s.nodes.modify id f }

/-- The text of a scalar, or of the value that a mapping has under the key for its value. -/
def text : Nat → Nat → Evaluate Text
  | 0, _ => fail .wrongKind
  | n + 1, id => do
    match (← node id).content with
    | .scalar t => return t
    | .sequence _ => fail .wrongKind
    | .mapping pairs =>
      let nodes := (← get).nodes
      match pairs.find? fun p => nodes[p.1]?.any fun k => k.tag == .value with
      | some p => text n p.2
      | none => fail .wrongKind

def truth (t : Text) : Except Error Bool :=
  let t := Text.lower t
  if ["yes".toList, "true".toList, "on".toList].contains t then .ok true
  else if ["no".toList, "false".toList, "off".toList].contains t then .ok false
  else .error (.refused (.notBoolean t))

def ofRefusal {α : Type} (r : Except Refusal α) : Evaluate α :=
  match r with
  | .ok a => return a
  | .error r => throw (.refused r)

/-- The value of a node. A collection is looked through later. -/
def value (fuel : Nat) (id : Nat) : Evaluate Value := do
  let n ← node id
  match n.tag with
  | .null =>
    let _ ← text fuel id
    return .scalar .null
  | .bool => return .scalar (.bool (← truth (← text fuel id)))
  | .int => return .scalar (.int (← ofRefusal (Number.int (← text fuel id))))
  | .float => return .scalar (.float (← ofRefusal (Number.float (← text fuel id))))
  | .binary => return .scalar (.bytes (← Binary.decode (← text fuel id)))
  | .timestamp =>
    let _ ← text fuel id
    match n.content with
    | .scalar t => return .scalar (.timestamp (← ofRefusal (Timestamp.ofText t)))
    | _ => throw (.refused .timestampOfMapping)
  | .str => return .scalar (.str (← text fuel id))
  | .seq | .map | .set | .orderedMap | .pairs =>
    let s ← get
    if !s.met.contains id then
      set { s with met := id :: s.met, waiting := s.waiting ++ [id] }
    return .collection
  | .merge | .value | .other => fail .unknownTag

/-- The pairs of a mapping. -/
def pairsOf (id : Nat) (what : Malformed) : Evaluate (List (Nat × Nat)) := do
  match (← node id).content with
  | .mapping pairs => return pairs
  | _ => fail what

mutual

/-- Put the pairs of merged mappings in front of a mapping's own. -/
def flatten : Nat → Nat → Evaluate Unit
  | 0, _ => fail .merge
  | n + 1, id => do
    let merged ← mergedFrom n id 0 []
    if !merged.isEmpty then
      let own ← pairsOf id .merge
      change id fun k => { k with content := .mapping (merged ++ own) }

/-- Take the merges out of a mapping from a pair on, and gather the pairs of the merged mappings. Of
several mappings in one merge the last comes first. A key for the value of the mapping becomes an
ordinary text. -/
def mergedFrom : Nat → Nat → Nat → List (Nat × Nat) → Evaluate (List (Nat × Nat))
  | 0, _, _, _ => fail .merge
  | n + 1, id, place, merged => do
    let pairs ← pairsOf id .merge
    match pairs[place]? with
    | none => return merged
    | some (k, v) =>
      match (← node k).tag with
      | .merge =>
        change id fun m => { m with content := .mapping (pairs.eraseIdx place) }
        match (← node v).content with
        | .mapping _ =>
          flatten n v
          mergedFrom n id place (merged ++ (← pairsOf v .merge))
        | .sequence items =>
          let parts ← items.mapM fun i => do
            let _ ← pairsOf i .merge
            flatten n i
            pairsOf i .merge
          mergedFrom n id place (merged ++ parts.reverse.flatten)
        | .scalar _ => fail .merge
      | .value =>
        change k fun m => { m with tag := .str }
        mergedFrom n id (place + 1) merged
      | _ => mergedFrom n id (place + 1) merged

end

def mapping (fuel id : Nat) : Evaluate (List (Scalar × Value)) := do
  let _ ← pairsOf id .wrongKind
  flatten fuel id
  (← pairsOf id .wrongKind).foldlM (fun pairs (k, v) => do
    match ← value fuel k with
    | .collection => fail .collectionKey
    | .scalar key => return put pairs key (← value fuel v)) []

/-- Look through the only pair of a mapping in a list of pairs. -/
def singlePair (fuel id : Nat) : Evaluate Unit := do
  match ← pairsOf id .wrongKind with
  | [(k, v)] =>
    let _ ← value fuel k
    let _ ← value fuel v
  | _ => fail .wrongKind

def collection (fuel id : Nat) : Evaluate (List (Scalar × Value)) := do
  let n ← node id
  match n.tag, n.content with
  | .map, _ | .set, _ => mapping fuel id
  | .seq, .sequence items =>
    for i in items do
      let _ ← value fuel i
    return []
  | .orderedMap, .sequence items | .pairs, .sequence items =>
    for i in items do
      singlePair fuel i
    return []
  | _, _ => fail .wrongKind

/-- Look through the collections that wait, and those that are met on the way. -/
def rest (fuel : Nat) : Nat → Evaluate Unit
  | 0 => return
  | n + 1 => do
    match (← get).waiting with
    | [] => return
    | id :: waiting =>
      modify fun s => { s with waiting := waiting }
      let _ ← collection fuel id
      rest fuel n

/-- The value of the document with the given root. -/
def document (fuel : Nat) (size : Nat) (id : Nat) : Evaluate Document := do
  let v ← value fuel id
  match v with
  | .collection =>
    modify fun s => { s with waiting := [] }
    let pairs ← collection fuel id
    rest fuel size
    return match (← node id).tag with
      | .map => .mapping pairs
      | _ => .value .collection
  | v => return .value v

end Evaluate

/-- The value of a document, if the text holds one with collections nested no deeper than so many
levels. -/
def load (depth : Nat) (t : Text) : Except Error Document := do
  let g ← graph depth t
  match g.root with
  | none => return .value (.scalar .null)
  | some id =>
    let size := g.nodes.size + t.length
    let fuel := Nat.pow (size + 2) (size + 2)
    let (d, _) ← (Evaluate.document fuel g.nodes.size id).run ⟨g.nodes, [], []⟩
    return d

/-- What a loader says of an error. -/
def Error.fault : Error → LoadFault
  | malformed _ => .malformed none
  | refused r => .raised r.kind r.message

/-- The loader of documents in which collections are nested no deeper than so many levels. -/
def loader (depth : Nat) : Loader := fun t => (load depth t).mapError Error.fault

end LetterMachine.Yaml
