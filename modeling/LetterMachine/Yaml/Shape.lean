import LetterMachine.Yaml.Tag
import LetterMachine.Yaml.Timestamp

namespace LetterMachine.Yaml.Shape

/-- The spellings of the truth values, in lower case, with a capital letter, and in upper case. -/
def truthValues : List Text :=
  ["yes", "Yes", "YES", "no", "No", "NO", "true", "True", "TRUE", "false", "False", "FALSE", "on",
    "On", "ON", "off", "Off", "OFF"].map String.toList

/-- The spellings of nothing, besides the empty scalar. -/
def nulls : List Text := ["~", "null", "Null", "NULL"].map String.toList

/-- The text without the sign in front of it. -/
def unsigned : Text → Text
  | '+' :: t => t
  | '-' :: t => t
  | t => t

/-- Whether a text is not empty and all its characters belong to a class. -/
def allOf (p : Char → Bool) (t : Text) : Bool := !t.isEmpty && t.all p

/-- A decimal digit or a separator between digits. -/
def isDigitOrLine (c : Char) : Bool := c.isDigit || c == '_'

/-- Digits with separators after the first. -/
def isDigits (t : Text) : Bool := t.head?.any Char.isDigit && t.all isDigitOrLine

/-- Digits with separators, of which the first is not zero. -/
def isPositive (t : Text) : Bool := isDigits t && t.head? != some '0'

/-- A place of a number in base sixty after the first: one digit, or two of which the first is at
most five. -/
def isSixtieth : Text → Bool
  | [c] => c.isDigit
  | [c, d] => '0' ≤ c && c ≤ '5' && d.isDigit
  | _ => false

/-- Places of a number in base sixty: at least two, and the first of a class. -/
def isSexagesimal (first : Text → Bool) (t : Text) : Bool :=
  match t.splitOn ':' with
  | head :: place :: places => first head && (place :: places).all isSixtieth
  | _ => false

/-- An integer: binary, octal, decimal, hexadecimal or in base sixty. -/
def isInt (t : Text) : Bool :=
  match unsigned t with
  | ['0'] => true
  | '0' :: 'b' :: d => allOf (fun c => c == '0' || c == '1' || c == '_') d
  | '0' :: 'x' :: d => allOf (fun c => (Text.hexDigit? c).isSome || c == '_') d
  | '0' :: d => allOf (fun c => ('0' ≤ c && c ≤ '7') || c == '_') d
  | d => isPositive d || isSexagesimal isPositive d

/-- An exponent with its sign, or nothing. -/
def isExponent : Text → Bool
  | [] => true
  | e :: sign :: d => (e == 'e' || e == 'E') && (sign == '+' || sign == '-') && allOf Char.isDigit d
  | _ => false

/-- The digits and separators after a point, and an exponent. -/
def isFraction (t : Text) : Bool := isExponent (t.dropWhile isDigitOrLine)

/-- A number with a point: with digits before it, with a digit right after it and no sign, or in
base sixty; or an infinity, or no number. -/
def isFloat (t : Text) : Bool :=
  let body := unsigned t
  let before := body.takeWhile fun c => c != '.'
  match body.dropWhile fun c => c != '.' with
  | [] => false
  | _ :: after =>
    if before.isEmpty then
      ["inf", "Inf", "INF"].any (fun s => after == s.toList) ||
        (t.head? == some '.' && (["nan", "NaN", "NAN"].any (fun s => after == s.toList) ||
          (after.head?.any Char.isDigit && isFraction after)))
    else
      (isDigits before && isFraction after) ||
        (isSexagesimal isDigits before && after.all isDigitOrLine)

/-- The tag of a plain scalar. A line feed at the end of a scalar that is not empty without it makes
no difference. -/
def tag (t : Text) : Tag :=
  if t.isEmpty then .null
  else
    let t := Timestamp.dropBreak t
    if truthValues.contains t then .bool
    else if isFloat t then .float
    else if isInt t then .int
    else if t == ['<', '<'] then .merge
    else if nulls.contains t then .null
    else if Timestamp.isPlain t then .timestamp
    else if t == ['='] then .value
    else if t == ['!'] || t == ['&'] || t == ['*'] then .other
    else .str

end LetterMachine.Yaml.Shape
