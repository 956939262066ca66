import LetterMachine.Service.Application
import LetterMachine.Service.Json.Reader

namespace LetterMachine.Service

/-- The answer to a request whose view comes to a result. -/
def Response.ofView : Except Escape Response → Response
  | .ok a => a
  | .error (.aborted status) => { status := status }
  | .error .broken => { status := 500 }

/-- A web framework: which types of content it takes for JSON, how deeply it has room for the values
in one another, and how it serves an application. Some requests cannot be sent. -/
structure Framework (ε : Type) where
  isJson : Text → Bool
  depth : Nat
  serve : Application → Request → Except ε Response

/-- What a framework says of itself. -/
structure Framework.Documented {ε : Type} (server : Framework ε) : Prop where
  /-- The type of JSON is one that the framework takes for JSON. -/
  isJson_json : server.isJson "application/json".toList = true
  /-- JSON content within the limit, posted to the path of a view, is answered by the view, which
  sees the value of the content, and every answer is finished by the application. -/
  serve_eq : ∀ (app : Application) (e : Endpoint) (r : Request) (type : Text) (j : Json),
    r.method = "POST".toList → r.address = e.path → r.contentType = some type →
      server.isJson type = true → r.content.length ≤ app.maxContent →
        Json.ofBytes server.depth r.content = .ok j →
          server.serve app r =
            .ok (app.finish (.ofView (app.view e ⟨"POST".toList, .ok j⟩)))

end LetterMachine.Service
