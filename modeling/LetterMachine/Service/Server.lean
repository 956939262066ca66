import LetterMachine.Service.Framework
import LetterMachine.Service.Route
import LetterMachine.Text.LetterCase

/-!
A framework, together with the client that sends requests to it.
-/

namespace LetterMachine.Service

/-- The name of a content type: what stands in front of its parameters, without spaces and tabs
around it, in lower case. -/
def typeName (contentType : Text) : Text :=
  let isSpace (c : Char) : Bool := c == ' ' || c == '\t'
  let name := (contentType.takeWhile fun c => c != ';').dropWhile isSpace
  Text.lower (name.reverse.dropWhile isSpace).reverse

/-- Whether a content type is that of JSON. Letter case and parameters make no difference. -/
def isJsonType (contentType : Text) : Bool :=
  let name := typeName contentType
  name == "application/json".toList ||
    ("application/".toList.isPrefixOf name && "+json".toList.isSuffixOf name)

/-- Whether a text has a line break, which no header may have. -/
def isBroken (t : Text) : Bool := t.contains '\r' || t.contains '\n'

/-- The JSON value that a view asks for. Content that is not said to be JSON is not looked at. -/
def Request.json (r : Request) (depth most : Nat) : Except Escape Json :=
  if !isJsonType (r.contentType.getD []) then .ok .null
  else if most < r.content.length then .error (.aborted 413)
  else match Json.ofBytes depth r.content with
    | .ok j => .ok j
    | .error .malformed => .ok .null
    | .error .tooDeep => .error .broken

inductive RequestFault where
  | address (fault : AddressFault)
  /-- A line break in the content type. -/
  | lineBreak
  deriving DecidableEq, Repr

def RequestFault.message : RequestFault → Text
  | address fault => fault.message
  | lineBreak => "Header values must not contain newline characters.".toList

/-- The target of a request that can be sent. -/
def Request.target (r : Request) : Except RequestFault Target := do
  let target ← (Target.ofAddress r.address).mapError .address
  if r.contentType.any isBroken then .error .lineBreak
  else return target

/-- The answer of an application to a request whose path leads nowhere. It loses its content if the
method is that which asks for the head alone; other spellings of that method are answered in
full. -/
def Application.missing (app : Application) (method : Text) : Response :=
  let a := app.notFound
    "The requested URL was not found on the server. If you entered the URL manually please check your spelling and try again.".toList
  if method = "HEAD".toList then { a with body := none } else a

/-- Answer a request that goes to a target. -/
def Application.answer (app : Application) (depth : Nat) (r : Request) (target : Target) :
    Response :=
  let method := Text.upper r.method
  app.finish <|
    match destination method target with
    | .unknown => app.missing r.method
    | .closed => { status := 405 }
    | .barred => { status := 400 }
    | .elsewhere => { status := 308 }
    | .route .asset =>
      if method = "OPTIONS".toList then { status := 200 } else app.missing r.method
    | .route (.endpoint e) => .ofView (app.view e ⟨method, r.json depth app.maxContent⟩)

/-- The framework that has room for JSON values nested to a depth. -/
def server (depth : Nat) : Framework RequestFault where
  isJson type := isJsonType type && !isBroken type
  depth := depth
  serve app r := r.target.map (app.answer depth r)

end LetterMachine.Service
