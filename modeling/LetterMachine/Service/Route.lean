import LetterMachine.Service.Address
import LetterMachine.Service.Application

namespace LetterMachine.Service

/-- What a path leads to: a view, or a folder of files of which there are none. -/
inductive Route where
  | endpoint (e : Endpoint)
  | asset
  deriving DecidableEq, Repr

namespace Route

/-- Whether a text names a file: it does not start with a slash, and after the first character there
is no line feed. -/
def isFileName : Text → Bool
  | [] => false
  | c :: rest => c != '/' && !rest.contains '\n'

def named? (path : Text) : Option Route :=
  if path = Endpoint.assemble.path then some (endpoint .assemble)
  else if path = Endpoint.run.path then some (endpoint .run)
  else match "/static/".toList.isPrefixOf? path with
    | some name => if isFileName name then some asset else none
    | none => none

/-- The text with every run of slashes as one. -/
def merged : Text → Text
  | [] => []
  | c :: rest => if c = '/' ∧ rest.head? = some '/' then merged rest else c :: merged rest

def methods : Route → List Text
  | endpoint _ => Endpoint.methods
  | asset => ["GET".toList, "HEAD".toList, "OPTIONS".toList]

end Route

/-- What is known of the method and the target of a request. -/
inductive Destination where
  /-- The path leads nowhere. -/
  | unknown
  /-- The route is not open to the method. -/
  | closed
  /-- The route is not open to the scheme. -/
  | barred
  /-- The route has a path with fewer slashes. -/
  | elsewhere
  | route (r : Route)
  deriving DecidableEq, Repr

/-- Whether a scheme asks for a socket, which no route serves. -/
def isSocket (scheme : Text) : Bool := scheme == "ws".toList || scheme == "wss".toList

def destination (method : Text) (target : Target) : Destination :=
  let among (r : Route) (d : Destination) : Destination :=
    if !r.methods.contains method then .closed
    else if isSocket target.scheme then .barred
    else d
  match Route.named? target.path, Route.named? (Route.merged target.path) with
  | some r, _ => among r (.route r)
  | none, some r => among r .elsewhere
  | none, none => .unknown

end LetterMachine.Service
