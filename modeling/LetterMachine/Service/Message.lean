import LetterMachine.Service.Json

namespace LetterMachine.Service

/-- A request: its method, its address, the type of its content if it has one, and its content. -/
structure Request where
  method : Text := "POST".toList
  address : Text
  contentType : Option Text := none
  content : List UInt8 := []
  deriving DecidableEq, Repr

/-- Who may use an answer: pages from which origins, by which methods, with which headers. Empty
texts allow nothing. -/
structure Access where
  origin : Text := []
  methods : Text := []
  headers : Text := []
  deriving DecidableEq, Repr

/-- An answer. Answers without a JSON value may have other content, which is not described here. -/
structure Response where
  status : Nat
  body : Option Json := none
  access : Access := {}

namespace Response

def json (status : Nat) (fields : List (String × Json)) : Response :=
  { status := status, body := some (.object (fields.map fun (name, v) => (name.toList, v))) }

def error (status : Nat) (title : String) (message : Text) (line : Option Int) : Response :=
  json status [("error", .str title.toList), ("message", .str message), ("line", Json.ofInt? line)]

end Response

end LetterMachine.Service
