import LetterMachine.Command.Request
import LetterMachine.Command.Usage
import LetterMachine.Machine.Run
import LetterMachine.Settings.Basic
import LetterMachine.Source
import LetterMachine.Workbench

namespace LetterMachine.Command

inductive Exit where
  | done
  | failed
  | misused
  /-- The program that it runs does not end. -/
  | never
  deriving DecidableEq, Repr

/-- The code that is given back to the caller. -/
def Exit.code? : Exit → Option Nat
  | done => some 0
  | failed => some 1
  | misused => some 2
  | never => none

/-- What a command leaves behind: how it ended, what it printed, what it said of failures, and the
files. -/
structure Outcome where
  exit : Exit
  printed : Text
  said : Text
  files : Files.Tree

/-- The lines printed so far, and the files. -/
structure Session where
  printed : Array Text := #[]
  files : Files.Tree

/-- Why a command is given up: it fails, or the program that it runs does not end. -/
inductive Setback where
  | failure (f : Failure)
  | endless
  deriving DecidableEq, Repr

abbrev Work := ExceptT Setback (StateM Session)

namespace Work

/-- Give up on a failure. -/
def ofExcept {ε α : Type} (report : ε → Failure) : Except ε α → Work α
  | .ok a => return a
  | .error e => throw (.failure (report e))

def print (lines : List Text) : Work Unit :=
  modify fun s => { s with printed := s.printed ++ lines }

def source (path : Text) (create : Bool) : Work Text := do
  let s ← get
  let (r, files) := Source.read create path s.files
  set { s with files := files }
  ofExcept SourceFault.report r

/-- The settings of a request: those of its configuration, and what is asked for besides. An empty
path names no configuration. -/
def settings (load : Yaml.Loader) (r : Request) : Work Settings := do
  let path := r.config.getD []
  let s ←
    if path.isEmpty then pure {}
    else ofExcept SettingsFault.report (Settings.ofFile load path (← get).files)
  return { s with
    verbose := s.verbose || r.verbose
    strictOperands := s.strictOperands || r.strict }

/-- The program of a request, and its listing if that is asked for. -/
def program (r : Request) (s : Settings) : Work Program := do
  if s.verbose then print ["Assembling: ".toList ++ r.input]
  let text ← source r.input s.createMissing
  let (a, w) := ({ flags := s.flags } : Workbench).assemble text
  print a.notes
  let p ← ofExcept AssemblyFault.report a.result
  if r.listing then print [w.listing]
  return p

/-- The lines at the end of a traced run: the number of steps, and the registers that are not
zero. -/
def closing (m : Machine) : List Text :=
  [] :: ("Execution finished: ".toList ++ Text.ofNat m.steps ++ " instructions".toList) ::
    (m.dump.filter fun (_, v) => v ≠ 0).map fun (c, v) =>
      ' ' :: ' ' :: c :: " = ".toList ++ Text.ofInt v

/-- Print what a machine has shown, and do what the end of its run calls for. -/
def conclude (verbose : Bool) (ending : Ending) (m : Machine) : Work Unit := do
  print (m.feed.toList.map Event.line)
  match ending with
  | .halted => if verbose then print (closing m)
  | .failed f => throw (.failure f.report)
  | .endless => throw .endless

/-- Run a program to its end, and print what it shows. -/
def execute (p : Program) (verbose : Bool) : Work Unit :=
  let ran := ({} : Machine).run p.instructions verbose none
  conclude verbose ran.1 ran.2

def ofRequest (load : Yaml.Loader) (r : Request) : Work Unit := do
  let s ← settings load r
  let p ← program r s
  if !r.noRun then execute p s.verbose

end Work

def ended (lines : List Text) : Text := lines.flatMap fun l => l ++ ['\n']

/-- What is said of a failure. A mishap is traced if the request is verbose. -/
def complaint (verbose : Bool) : Failure → List Text
  | .diagnostic d => ["Error: ".toList ++ d.message]
  | .mishap m =>
    ("Unexpected error: ".toList ++ m.message) :: if verbose then ["Traceback".toList] else []

def follow (load : Yaml.Loader) (r : Request) (files : Files.Tree) : Outcome :=
  let (result, s) := (Work.ofRequest load r).run.run { files := files }
  let (exit, said) : Exit × List Text :=
    match result with
    | .ok _ => (.done, [])
    | .error (.failure f) => (.failed, complaint r.verbose f)
    | .error .endless => (.never, [])
  ⟨exit, ended s.printed.toList, ended said, s.files⟩

/-- Run the command with the given words, and a loader for its configuration. -/
def runWith (load : Yaml.Loader) (args : List Text) (files : Files.Tree) : Outcome :=
  match Request.ofTexts args with
  | .ok r => follow load r files
  | .error .help => ⟨.done, ended help, [], files⟩
  | .error .version => ⟨.done, ended [version], [], files⟩
  | .error (.misused fault) =>
    ⟨.misused, [], ended (usage ++ [programName ++ ": error: ".toList ++ fault.message]), files⟩

end LetterMachine.Command
