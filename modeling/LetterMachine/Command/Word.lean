import LetterMachine.Command.Flag
import LetterMachine.Text.Digit
import LetterMachine.Text.Quoted

namespace LetterMachine.Command

/-- Why a command line cannot be followed. -/
inductive UsageFault where
  /-- The start of more than one long name. -/
  | ambiguous (word : Text) (candidates : List Flag)
  /-- A value attached to an option that takes none. -/
  | ignoredValue (flag : Flag) (value : Text)
  /-- An option without its value. -/
  | noValue (flag : Flag)
  /-- No file to work on. -/
  | noInput
  /-- Words that nothing is known of. -/
  | unrecognized (words : List Text)
  deriving DecidableEq, Repr

def UsageFault.message : UsageFault → Text
  | ambiguous word candidates =>
    "ambiguous option: ".toList ++ word ++ " could match ".toList ++
      [',', ' '].intercalate (candidates.map Flag.longName)
  | ignoredValue flag value =>
    "argument ".toList ++ flag.title ++ ": ignored explicit argument ".toList ++ value.quoted
  | noValue flag => "argument ".toList ++ flag.title ++ ": expected one argument".toList
  | noInput => "the following arguments are required: input".toList
  | unrecognized words => "unrecognized arguments: ".toList ++ [' '].intercalate words

/-- What follows the options without values in a word: nothing, an option with its value, or an
option whose value is the next word. -/
inductive Tail where
  | nothing
  | valued (flag : Flag) (value : Text)
  | awaiting (flag : Flag)
  deriving DecidableEq, Repr

/-- The options in one word. -/
structure Cluster where
  switches : List Flag
  tail : Tail
  deriving DecidableEq, Repr

/-- A word. A fault in the options of a word counts only when its turn comes. -/
inductive Word where
  | operand (t : Text)
  | separator
  | options (c : Except UsageFault Cluster)
  | unknown (t : Text)

/-- One option, with the value that is attached to it if there is one. -/
def Cluster.single (f : Flag) (value : Option Text) : Except UsageFault Cluster :=
  match f.takesValue, value with
  | false, none => .ok ⟨[f], .nothing⟩
  | false, some v => .error (.ignoredValue f v)
  | true, none => .ok ⟨[], .awaiting f⟩
  | true, some v => .ok ⟨[], .valued f v⟩

/-- An option, and the text right behind its letter. That text is the value of an option that takes
one; behind any other option it starts with the letter of the next. -/
def Cluster.ofLetters (f : Flag) : Text → Except UsageFault Cluster
  | [] => single f none
  | c :: rest =>
    if f.takesValue then single f (some (c :: rest))
    else
      match Flag.ofLetter? c with
      | none => .error (.ignoredValue f (c :: rest))
      | some g => (ofLetters g rest).map fun c => { c with switches := f :: c.switches }

/-- An option, and what follows its letter at the start of a word. An equals sign there belongs
neither to a value nor to the letters. -/
def Cluster.ofWord (f : Flag) : Text → Except UsageFault Cluster
  | ['='] => single f (some [])
  | '=' :: rest => ofLetters f rest
  | rest => ofLetters f rest

namespace Word

/-- Whether a text is a negative number, in decimal digits of any script with at most one point. A
line feed may follow it. -/
def isNegativeNumber (t : Text) : Bool :=
  let isDigit (c : Char) := (Text.decimalDigit? c).isSome
  match (if t.getLast? = some '\n' then t.dropLast else t) with
  | '-' :: number =>
    match number.dropWhile isDigit with
    | [] => !number.isEmpty
    | '.' :: places => !places.isEmpty && places.all isDigit
    | _ => false
  | _ => false

def name (t : Text) : Text := t.takeWhile fun c => c != '='

def value? (t : Text) : Option Text := (t.dropWhile fun c => c != '=').tail?

/-- A word that starts with a hyphen but is no option. Numbers and words with spaces are operands.
-/
def other (t : Text) : Word :=
  if isNegativeNumber t || t.contains ' ' then .operand t else .unknown t

/-- A word in front of the separator. A long name may be cut short as long as only one option has a
name that starts so. -/
def ofText : Text → Except UsageFault Word
  | '-' :: '-' :: rest =>
    let t := '-' :: '-' :: rest
    match Flag.all.find? fun f => f.longName == name t with
    | some f => .ok (.options (Cluster.single f (value? t)))
    | none =>
      match Flag.startingWith (name t) with
      | [] => .ok (other t)
      | [f] => .ok (.options (Cluster.single f (value? t)))
      | candidates => .error (.ambiguous t candidates)
  | '-' :: c :: rest =>
    match Flag.ofLetter? c with
    | some f => .ok (.options (Cluster.ofWord f rest))
    | none => .ok (other ('-' :: c :: rest))
  | t => .ok (.operand t)

def ofTexts : List Text → Except UsageFault (List Word)
  | [] => .ok []
  | t :: rest =>
    if t = ['-', '-'] then .ok (.separator :: rest.map .operand)
    else return (← ofText t) :: (← ofTexts rest)

end Word

end LetterMachine.Command
