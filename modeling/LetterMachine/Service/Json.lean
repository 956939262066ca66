import LetterMachine.Text.Basic

namespace LetterMachine.Service

/-- A JSON value. An object keeps all its pairs in order. -/
inductive Json where
  | null
  | bool (b : Bool)
  | int (n : Int)
  | float (x : Float)
  | str (t : Text)
  | array (items : List Json)
  | object (fields : List (Text × Json))

namespace Json

/-- The value of a field. The last of several fields with one name counts. -/
def field? (name : Text) : Json → Option Json
  | object fields => fields.reverse.lookup name
  | _ => none

/-- Whether a value stands for a yes: neither nothing nor zero nor empty. -/
def isTrue : Json → Bool
  | null => false
  | bool b => b
  | int n => n != 0
  | float x => x != 0.0
  | str t => !t.isEmpty
  | array items => !items.isEmpty
  | object fields => !fields.isEmpty

def ofText? : Option Text → Json
  | some t => str t
  | none => null

def ofInt? : Option Int → Json
  | some n => int n
  | none => null

end Json

end LetterMachine.Service
