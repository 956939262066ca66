import LetterMachine.Report

namespace LetterMachine.Yaml

/-- The part of a date or a time that is out of its range. -/
inductive TimePart where
  | year
  | month
  | day
  | hour
  | minute
  | second
  deriving DecidableEq, Repr

/-- Why a scalar has no value. -/
inductive Refusal where
  /-- A text, in lower case, that names no truth value. -/
  | notBoolean (text : Text)
  /-- A text that is no integer in the base. -/
  | notInteger (base : Nat) (text : Text)
  /-- A decimal numeral with more digits than are converted. -/
  | longNumeral (digits : Nat)
  /-- A text that is no floating-point number. -/
  | notFloat (text : Text)
  /-- A number without a character. -/
  | emptyNumber
  /-- A number in base sixty with so many places that the weight of one is not finite. -/
  | weightTooLarge
  /-- A text that is no date. -/
  | notTimestamp
  /-- A mapping where the text of a date is needed. -/
  | timestampOfMapping
  /-- A part of a date or time out of its range; the year zero is the only year out of range. -/
  | outOfRange (part : TimePart)
  /-- An offset from universal time, in seconds, of a day or more. -/
  | offsetTooLarge (seconds : Int)
  /-- An escape for a number past the last code point. -/
  | notCodePoint
  /-- An escape for a number that does not fit in a signed word. -/
  | escapeTooLarge
  /-- Collections that are nested too deeply. -/
  | tooDeep
  deriving DecidableEq, Repr

/-- A span of time by its days and the seconds of the last day. -/
def spanText (seconds : Int) : Text :=
  let days := seconds.fdiv 86400
  let rest := seconds.fmod 86400
  let parts :=
    (if days = 0 then [] else ["days=".toList ++ Text.ofInt days]) ++
      (if rest = 0 then [] else ["seconds=".toList ++ Text.ofInt rest])
  "datetime.timedelta(".toList ++
    (if parts.isEmpty then ['0'] else [',', ' '].intercalate parts) ++ [')']

namespace TimePart

def message : TimePart → Text
  | year => "year 0 is out of range".toList
  | month => "month must be in 1..12".toList
  | day => "day is out of range for month".toList
  | hour => "hour must be in 0..23".toList
  | minute => "minute must be in 0..59".toList
  | second => "second must be in 0..59".toList

end TimePart

def Refusal.kind : Refusal → Mishap.Kind
  | notBoolean _ => .key
  | emptyNumber => .position
  | notTimestamp => .absence
  | timestampOfMapping => .shape
  | escapeTooLarge | weightTooLarge => .magnitude
  | tooDeep => .depth
  | _ => .value

def Refusal.message : Refusal → Text
  | notBoolean text => text.quoted
  | notInteger base text =>
    "invalid literal for int() with base ".toList ++ Text.ofNat base ++ ": ".toList ++
      text.quoted.take 200
  | longNumeral digits => Text.longNumeralMessage digits
  | notFloat text => "could not convert string to float: ".toList ++ text.quoted
  | emptyNumber => "string index out of range".toList
  | weightTooLarge => "int too large to convert to float".toList
  | notTimestamp => "'NoneType' object has no attribute 'groupdict'".toList
  | timestampOfMapping => "expected string or bytes-like object, got 'list'".toList
  | outOfRange part => part.message
  | offsetTooLarge seconds =>
    "offset must be a timedelta strictly between -timedelta(hours=24) and timedelta(hours=24), not ".toList ++
      spanText seconds ++ ['.']
  | notCodePoint => "chr() arg not in range(0x110000)".toList
  | escapeTooLarge => "Python int too large to convert to C int".toList
  | tooDeep => "maximum recursion depth exceeded".toList

end LetterMachine.Yaml
