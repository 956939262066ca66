import LetterMachine.Text.Quoted
import LetterMachine.Text.Utf8

/-!
What is reported of failures: diagnostics, which tell the user where the fault lies, and mishaps,
which are faults that no diagnostic was made for.
-/

namespace LetterMachine

inductive Diagnostic.Kind where
  /-- A fault of no special family. -/
  | general
  /-- A line that cannot be decoded. -/
  | parse
  /-- A block that is not well formed. -/
  | block
  /-- An invalid configuration. -/
  | config
  /-- A source file that can be neither read nor created. -/
  | sourceFile
  /-- A failure while a program runs, and its three special cases. -/
  | execution
  | negativeResult
  | divisionByZero
  | overflow
  deriving DecidableEq, Repr

/-- Where a fault lies: on a line of source, or at an instruction of a running program. Each part
may be unknown. -/
inductive Diagnostic.Place where
  | source (line : Option Int) (text : Option Text)
  | program (ip : Option Int) (instruction : Option Text)
  deriving DecidableEq, Repr

/-- A fault that is reported to the user. -/
structure Diagnostic where
  kind : Diagnostic.Kind
  detail : Text
  place : Diagnostic.Place := .source none none
  deriving DecidableEq, Repr

namespace Diagnostic

def message (d : Diagnostic) : Text :=
  match d.place with
  | .source (some n) text =>
    "Line ".toList ++ Text.ofInt n ++ ": ".toList ++ d.detail ++
      match text with
      | none | some [] => []
      | some t => "\n  ".toList ++ t
  | .program (some ip) instruction =>
    "Instruction ".toList ++ Text.ofInt ip ++ " (".toList ++ instruction.getD "None".toList ++
      "): ".toList ++ d.detail
  | _ => d.detail

def line? (d : Diagnostic) : Option Int :=
  match d.place with
  | .source line _ => line
  | .program .. => none

def text? (d : Diagnostic) : Option Text :=
  match d.place with
  | .source _ text => text
  | .program .. => none

def ip? (d : Diagnostic) : Option Int :=
  match d.place with
  | .source .. => none
  | .program ip _ => ip

def instruction? (d : Diagnostic) : Option Text :=
  match d.place with
  | .source .. => none
  | .program _ instruction => instruction

end Diagnostic

inductive Mishap.Kind where
  /-- A value that an operation does not take. -/
  | value
  /-- A number too large for a machine word. -/
  | magnitude
  /-- A name that is not in a table. -/
  | key
  /-- A position past the end. -/
  | position
  /-- A part that is absent. -/
  | absence
  /-- A thing of the wrong shape. -/
  | shape
  /-- A refusal of the file system. -/
  | system
  /-- Bytes that are no text. -/
  | decoding
  /-- Parts within parts that go too deep. -/
  | depth
  deriving DecidableEq, Repr

/-- A fault for which no diagnostic is made. -/
inductive Mishap where
  /-- A numeral with too many digits to be read. -/
  | longNumeral (digits : Nat)
  /-- A number with too many digits to be written. -/
  | longNumber
  /-- A path that holds a null character. -/
  | nullCharacter
  /-- A path of which a name, or the whole, is too long. -/
  | longName (path : Text)
  /-- Bytes that are not UTF-8. -/
  | undecodable (fault : Text.Utf8.Fault)
  /-- A fault that the loader of a configuration raises, by its family and what is said of it. -/
  | refused (kind : Mishap.Kind) (message : Text)
  /-- A number that no register has. -/
  | notRegisterNumber (number : Int)
  /-- A name that no register has. -/
  | notRegisterName (name : Text)
  /-- A name that no operation has. -/
  | notOpcode (name : Text)
  deriving DecidableEq, Repr

namespace Mishap

def kind : Mishap → Kind
  | longNumeral _ | longNumber | nullCharacter => .value
  | notRegisterNumber _ | notRegisterName _ | notOpcode _ => .value
  | longName _ => .system
  | undecodable _ => .decoding
  | refused kind _ => kind

/-- What is said of a mishap. -/
def message : Mishap → Text
  | longNumeral digits => Text.longNumeralMessage digits
  | longNumber => Text.longNumberMessage
  | nullCharacter => "embedded null byte".toList
  | longName path => "[Errno 36] File name too long: ".toList ++ path.quoted
  | undecodable fault => fault.message
  | refused _ message => message
  | notRegisterNumber n => "Invalid register number: ".toList ++ Text.ofInt n
  | notRegisterName name => "Invalid register name: ".toList ++ name
  | notOpcode name => name.quoted ++ " is not a valid Opcode".toList

end Mishap

inductive Failure where
  | diagnostic (d : Diagnostic)
  | mishap (m : Mishap)
  deriving DecidableEq, Repr

end LetterMachine
