import LetterMachine.Assembly
import LetterMachine.Machine.Run
import LetterMachine.Service.Message

/-!
The program as an application of a web framework: it assembles the source text in a request, or
assembles and runs it.
-/

namespace LetterMachine.Service

/-- Why a view gives no answer. -/
inductive Escape where
  /-- The framework gives up on the request, with a status. -/
  | aborted (status : Nat)
  /-- Something goes wrong for which there is no diagnostic. -/
  | broken
  deriving DecidableEq, Repr

/-- What a view sees of a request: its method, and the JSON value of its content, which is null if
there is none. -/
structure Call where
  method : Text
  json : Except Escape Json

/-- The work for a path. -/
abbrev View := Call → Except Escape Response

inductive Endpoint where
  | assemble
  | run
  deriving DecidableEq, Repr

namespace Endpoint

def path : Endpoint → Text
  | assemble => "/api/assemble".toList
  | run => "/api/run".toList

def methods : List Text := ["POST".toList, "OPTIONS".toList]

end Endpoint

/-- What an application gives to a framework: its views, the answer where no view is, by what the
framework says of it, what is done to every answer, and the most bytes that the content of a request
may have. -/
structure Application where
  view : Endpoint → View
  notFound : Text → Response
  finish : Response → Response
  maxContent : Nat

/-- A source text to work on, and whether its operands are read strictly. -/
structure Task where
  source : Text
  strict : Bool
  deriving DecidableEq, Repr

/-- The task that a JSON value describes. -/
def Task.ofJson? (j : Json) : Option Task :=
  match j.field? "source".toList with
  | some (.str source) => some ⟨source, ((j.field? "strict".toList).map Json.isTrue).getD false⟩
  | _ => none

def textArray (ts : List Text) : Json := .array (ts.map Json.str)

def shown (is : List Instruction) : Json := textArray (is.map Instruction.shown)

def registers (m : Machine) : Json := .object (m.dump.map fun (c, v) => ([c], .int v))

namespace Response

def badRequest : Response :=
  error 400 "Bad request" "Request body must be a JSON object with a 'source' string".toList none

def notFound (description : Text) : Response := error 404 "Not found" description none

def assembled (p : Program) : Response :=
  json 200 [("success", .bool true), ("instructions", shown p.instructions),
    ("functions", .object (p.blocks.map fun b => (b.name, shown b.instructions)))]

/-- The answer with what a machine has done. -/
def executed (m : Machine) : Response :=
  json 200 [("success", .bool true), ("output", textArray m.output.toList),
    ("registers", registers m), ("steps", .int m.steps),
    ("comparison", Json.ofText? (m.comparison.map Machine.verdict))]

/-- The answer when a run fails, with what the machine had done before. -/
def runFailed (d : Diagnostic) (m : Machine) : Response :=
  json 400 [("error", .str "Execution failed".toList), ("message", .str d.detail),
    ("ip", Json.ofInt? d.ip?), ("output", textArray m.output.toList),
    ("registers", registers m)]

/-- An answer that pages from anywhere may use. -/
def shared (a : Response) : Response :=
  { a with access := ⟨"*".toList, "GET, POST, OPTIONS".toList, "Content-Type".toList⟩ }

end Response

/-- Do something with the program of a task. -/
def Task.withProgram (t : Task) (f : Program → Except Escape Response) : Except Escape Response :=
  match (assemble { strict := t.strict } t.source).result with
  | .ok p => f p
  | .error fault =>
    match fault.report with
    | .diagnostic d => .ok (.error 400 "Assembly failed" d.detail d.line?)
    | .mishap _ => .error .broken

/-- The view that does something with the program of the task in a request. -/
def view (f : Program → Except Escape Response) : View := fun c => do
  if c.method = "OPTIONS".toList then return { status := 204 }
  match Task.ofJson? (← c.json) with
  | none => return .badRequest
  | some t => t.withProgram f

/-- Run a program for at most so many steps, and answer with what comes of it. -/
def execute (limit : Int) (p : Program) : Except Escape Response :=
  let (ending, m) := ({} : Machine).run p.instructions false (some limit)
  match ending with
  | .halted => .ok (.executed m)
  | .failed f =>
    match f.report with
    | .diagnostic d => .ok (.runFailed d m)
    | .mishap _ => .error .broken
  | .endless => .error .broken

/-- The application that runs programs for at most so many steps. -/
def application (limit : Int) : Application where
  view
    | .assemble => Service.view fun p => .ok (.assembled p)
    | .run => Service.view (execute limit)
  notFound := .notFound
  finish := .shared
  maxContent := 1048576

end LetterMachine.Service
