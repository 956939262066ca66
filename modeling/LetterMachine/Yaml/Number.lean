import LetterMachine.Decimal.Nearest
import LetterMachine.Text.Blank
import LetterMachine.Text.Digit
import LetterMachine.Text.LetterCase
import LetterMachine.Yaml.Error

namespace LetterMachine.Yaml.Number

/-- The ASCII character that stands in for a character: itself, a space for a blank, and a digit for
a digit of any script. No number has any other. -/
def standIn (c : Char) : Char :=
  if c.toNat < 128 then c
  else if Text.isBlank c then ' '
  else ((Text.decimalDigit? c).map Nat.digitChar).getD '?'

/-- A text in ASCII, without the spaces at its ends. Of the controls those from tab to carriage
return are spaces. -/
def plain (t : Text) : Text :=
  let isSpace (c : Char) : Bool := c == ' ' || (9 ≤ c.toNat && c.toNat ≤ 13)
  (((t.map standIn).dropWhile isSpace).reverse.dropWhile isSpace).reverse

/-- A sign in front of a text, as whether the number is negative. -/
def sign : Text → Bool × Text
  | '-' :: t => (true, t)
  | '+' :: t => (false, t)
  | t => (false, t)

/-- A number with its sign. -/
def signed (negative : Bool) (n : Nat) : Int := if negative then -n else n

/-- The letters that may stand after a zero in front of the digits of a base. -/
def marks (base : Nat) : List Char :=
  match base with
  | 2 => ['b', 'B']
  | 8 => ['o', 'O']
  | 16 => ['x', 'X']
  | _ => []

/-- Digits of a base without the mark in front of them. -/
def unmarked (base : Nat) : Text → Text
  | t@('0' :: c :: rest) => if (marks base).contains c then rest else t
  | t => t

/-- Whether a character is a digit of a base. -/
def isDigitOf (base : Nat) (c : Char) : Bool := (Text.hexDigit? c).any fun d => d < base

/-- An integer in a base. Decimal ones may not have too many digits. -/
def integer (base : Nat) (t : Text) : Except Refusal Int :=
  let (negative, body) := sign (plain t)
  let body := unmarked base body
  let digits := body.takeWhile (isDigitOf base)
  if base = 10 ∧ Text.maxDigits < digits.length then .error (.longNumeral digits.length)
  else if digits.isEmpty || digits.length < body.length then .error (.notInteger base t)
  else match Text.numeral? base digits with
    | some n => .ok (signed negative n)
    | none => .error (.notInteger base t)

/-- The scalar without separators, and its sign. -/
def body (t : Text) : Except Refusal (Bool × Text) :=
  match t.filter fun c => c != '_' with
  | [] => .error .emptyNumber
  | t => .ok (sign t)

/-- Places in base sixty, the last of them the units. -/
def sixties (places : List Int) : Int := places.foldl (fun n d => n * 60 + d) 0

/-- The integer that a scalar stands for. -/
def int (t : Text) : Except Refusal Int := do
  let (negative, t) ← body t
  let n ← match t with
    | ['0'] => pure 0
    | '0' :: 'b' :: d => integer 2 d
    | '0' :: 'x' :: d => integer 16 d
    | '0' :: _ => integer 8 t
    | [] => throw .emptyNumber
    | _ =>
      if t.contains ':' then pure (sixties (← (t.splitOn ':').mapM (integer 10)))
      else integer 10 t
  return if negative then -n else n

/-- The digits of a decimal, the number of them after the point, and the exponent. -/
def decimal? (t : Text) : Option (Text × Nat × Int) :=
  let whole := t.takeWhile Char.isDigit
  let rest := t.drop whole.length
  let (fraction, rest) := match rest with
    | '.' :: rest => (rest.takeWhile Char.isDigit, rest.dropWhile Char.isDigit)
    | _ => ([], rest)
  if whole.isEmpty && fraction.isEmpty then none
  else match rest with
    | [] => some (whole ++ fraction, fraction.length, 0)
    | 'e' :: rest =>
      let (negative, d) := sign rest
      if d.isEmpty || !d.all Char.isDigit then none
      else some (whole ++ fraction, fraction.length, signed negative (Nat.ofDigitChars 10 d 0))
    | _ => none

/-- A floating-point number in lower case. -/
def floating (t : Text) : Except Refusal Float :=
  let (negative, body) := sign (plain t)
  let x? : Option Float :=
    if body = "inf".toList ∨ body = "infinity".toList then some (1.0 / 0.0)
    else if body = "nan".toList then some (0.0 / 0.0)
    else (decimal? body).map fun (digits, places, exponent) =>
      Decimal.ofDecimal (Nat.ofDigitChars 10 digits 0) (exponent - places)
  match x? with
  | some x => .ok (if negative then -x else x)
  | none => .error (.notFloat t)

/-- The sum of places in base sixty, from the units on, each step rounded. -/
def floatSixties : Nat → Float → List Float → Except Refusal Float
  | _, sum, [] => .ok sum
  | weight, sum, d :: places =>
    let w := Decimal.ofNat weight
    if w.isInf then .error .weightTooLarge
    else floatSixties (weight * 60) (sum + d * w) places

/-- The floating-point number that a scalar stands for. -/
def float (t : Text) : Except Refusal Float := do
  let (negative, t) ← body t
  let t := Text.lower t
  let x ←
    if t = ".inf".toList then pure (1.0 / 0.0)
    else if t = ".nan".toList then pure (0.0 / 0.0)
    else if t.contains ':' then
      floatSixties 1 0.0 (← (t.splitOn ':').mapM floating).reverse
    else floating t
  return if negative then -x else x

end LetterMachine.Yaml.Number
