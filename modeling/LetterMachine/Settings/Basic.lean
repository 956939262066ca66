import LetterMachine.Assembly
import LetterMachine.Files.Tree
import LetterMachine.Yaml.Loader

namespace LetterMachine

/-- Whether notes are printed, whether operands are read strictly, and whether a missing source file
is created. -/
structure Settings where
  verbose : Bool := false
  strictOperands : Bool := false
  createMissing : Bool := true
  deriving DecidableEq, Repr

/-- The switches. -/
inductive Switch where
  | verbose
  | strictOperands
  | createMissing
  deriving DecidableEq, Repr

namespace Switch

/-- The name of a switch in a mapping. -/
def name : Switch → Text
  | verbose => "verbose".toList
  | strictOperands => "strict_operands".toList
  | createMissing => "create_missing".toList

/-- The switch with a name. -/
def named? (t : Text) : Option Switch :=
  [verbose, strictOperands, createMissing].find? fun s => s.name == t

end Switch

/-- Why a configuration, or the file it is to be read from, gives no settings. -/
inductive SettingsFault where
  /-- What the path leads to cannot be read. -/
  | unreadable (path : Text) (refusal : Files.Refusal)
  /-- A null character in the path. -/
  | nullCharacter
  /-- The bytes of the file are no text. -/
  | undecodable (fault : Text.Utf8.Fault)
  /-- The text is no YAML document, for a reason that may be known. -/
  | malformed (reason : Option Text)
  /-- The loader of documents raises a fault of another family. -/
  | refused (kind : Mishap.Kind) (message : Text)
  /-- The document is something else than a mapping. -/
  | notMapping
  /-- A key that names no switch, by its text if it has one. -/
  | unknownKey (key : Option Text)
  /-- A switch whose value is no truth value. -/
  | notTruthValue (switch : Switch)
  deriving DecidableEq, Repr

namespace SettingsFault

/-- The report of a fault. -/
def report : SettingsFault → Failure
  | unreadable path r =>
    fault ("Cannot read configuration file ".toList ++ path ++ ':' :: ' ' :: r.on path)
  | nullCharacter => .mishap .nullCharacter
  | undecodable f => .mishap (.undecodable f)
  | malformed reason =>
    fault ("Invalid YAML syntax".toList ++ reason.elim [] fun t => ':' :: ' ' :: t)
  | refused kind message => .mishap (.refused kind message)
  | notMapping => fault "Configuration must be a YAML mapping/dictionary".toList
  | unknownKey none => .mishap .longNumber
  | unknownKey (some key) => fault ("Unknown configuration key '".toList ++ key ++ ['\''])
  | notTruthValue s => fault ('\'' :: s.name ++ "' must be true or false".toList)
where
  fault (detail : Text) : Failure := .diagnostic ⟨.config, detail, .source none none⟩

end SettingsFault

namespace Settings

/-- The settings with a switch turned on or off. -/
def turn (s : Settings) (switch : Switch) (b : Bool) : Settings :=
  match switch with
  | .verbose => { s with verbose := b }
  | .strictOperands => { s with strictOperands := b }
  | .createMissing => { s with createMissing := b }

/-- The switch that a key names. -/
def switchOf (key : Yaml.Scalar) : Except SettingsFault Switch :=
  match key with
  | .str t =>
    match Switch.named? t with
    | some s => .ok s
    | none => .error (.unknownKey (some t))
  | k => .error (.unknownKey k.text?)

/-- Turn the switches as the pairs of a mapping say, up to the first fault. -/
def ofPairs : List (Yaml.Scalar × Yaml.Value) → Settings → Except SettingsFault Settings
  | [], s => .ok s
  | (key, value) :: rest, s => do
    let switch ← switchOf key
    match value with
    | .scalar (.bool b) => ofPairs rest (s.turn switch b)
    | _ => .error (.notTruthValue switch)

/-- The settings that a document stands for. An empty document leaves all switches as they are. -/
def ofDocument : Yaml.Document → Except SettingsFault Settings
  | .value (.scalar .null) => .ok {}
  | .value _ => .error .notMapping
  | .mapping pairs => ofPairs pairs {}

variable (load : Yaml.Loader)

/-- The settings in a configuration of which a loader makes a document. -/
def ofText (t : Text) : Except SettingsFault Settings :=
  match load t with
  | .ok d => ofDocument d
  | .error (.malformed reason) => .error (.malformed reason)
  | .error (.raised kind message) => .error (.refused kind message)

/-- The settings in the file at a path. -/
def ofFile (path : Text) (t : Files.Tree) : Except SettingsFault Settings :=
  if path.contains '\x00' then .error .nullCharacter
  else match t.bytes path with
    | .error r => .error (.unreadable path r)
    | .ok bytes =>
      match Text.Utf8.decode bytes with
      | .error f => .error (.undecodable f)
      | .ok text => ofText load text.unifyBreaks

/-- How the settings have source texts assembled. -/
def flags (s : Settings) : AssemblyFlags := ⟨s.verbose, s.strictOperands⟩

end Settings

end LetterMachine
