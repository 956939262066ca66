import LetterMachine.Decimal.Shortest
import LetterMachine.Yaml.Timestamp

namespace LetterMachine.Yaml

/-- A value without parts. -/
inductive Scalar where
  | null
  | bool (b : Bool)
  | int (n : Int)
  | float (x : Float)
  | str (t : Text)
  | bytes (bs : List UInt8)
  | timestamp (s : Timestamp)

/-- The text of a value. An integer with too many digits has none. -/
def Scalar.text? : Scalar → Option Text
  | null => some "None".toList
  | bool b => some (if b then "True".toList else "False".toList)
  | int n => if Text.tooManyDigits n then none else some (Text.ofInt n)
  | float x => some (Decimal.text x)
  | str t => some t
  | bytes bs => some (Text.quotedBytes bs)
  | timestamp s => some s.text

/-- A value. A collection is not looked into. -/
inductive Value where
  | scalar (s : Scalar)
  | collection

/-- The value of a whole document: the pairs of a mapping, or anything else. Only values without
parts are keys. -/
inductive Document where
  | mapping (pairs : List (Scalar × Value))
  | value (v : Value)

/-- Why a loader has no document for a text. -/
inductive LoadFault where
  /-- The text is no document, for a reason that the loader may give. -/
  | malformed (reason : Option Text)
  /-- A fault of another family than that of malformed documents, and what is said of it. -/
  | raised (kind : Mishap.Kind) (message : Text)
  deriving DecidableEq, Repr

/-- What makes documents of texts. -/
abbrev Loader := Text → Except LoadFault Document

end LetterMachine.Yaml
