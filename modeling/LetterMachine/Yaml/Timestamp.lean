import LetterMachine.Text.Numeral
import LetterMachine.Yaml.Error

namespace LetterMachine.Yaml

/-- A time of day, in microseconds below a second, with its offset from universal time in seconds.
-/
structure TimeOfDay where
  hour : Nat
  minute : Nat
  second : Nat
  micro : Nat
  offset : Option Int
  deriving DecidableEq, Repr

/-- A date, and maybe a time on it. -/
structure Timestamp where
  year : Nat
  month : Nat
  day : Nat
  time : Option TimeOfDay
  deriving DecidableEq, Repr

namespace Timestamp

/-- Digits at the start of a text, of a number between the least and the most. -/
def digits? (least most : Nat) (t : Text) : Option (Text × Text) :=
  let d := t.takeWhile Char.isDigit
  if least ≤ d.length ∧ d.length ≤ most then some (d, t.drop d.length) else none

/-- One of the characters at the start of a text. -/
def oneOf? (cs : List Char) : Text → Option Text
  | [] => none
  | c :: rest => if cs.contains c then some rest else none

/-- The number of a text of digits. -/
def number (d : Text) : Nat := Nat.ofDigitChars 10 d 0

/-- The offset from universal time at the end of a time: nothing, a letter, or hours and minutes
after a sign. -/
def offset? (t : Text) : Option (Option Int) :=
  match t.dropWhile fun c => c == ' ' || c == '\t' with
  | [] => if t.isEmpty then some none else none
  | ['Z'] => some (some 0)
  | sign :: rest => do
    if sign != '+' && sign != '-' then none
    let (hours, rest) ← digits? 1 2 rest
    let minutes ← match rest with
      | [] => some ['0']
      | ':' :: rest => do
        let (minutes, rest) ← digits? 2 2 rest
        if rest.isEmpty then some minutes else none
      | _ => none
    let seconds : Int := number hours * 3600 + number minutes * 60
    some (some (if sign = '-' then -seconds else seconds))

/-- The time after a date, behind a letter or blanks. -/
def time? (t : Text) : Option TimeOfDay := do
  let rest ← match t with
    | 'T' :: rest | 't' :: rest => some rest
    | _ =>
      let rest := t.dropWhile fun c => c == ' ' || c == '\t'
      if rest.length < t.length then some rest else none
  let (hour, rest) ← digits? 1 2 rest
  let (minute, rest) ← digits? 2 2 (← oneOf? [':'] rest)
  let (second, rest) ← digits? 2 2 (← oneOf? [':'] rest)
  let (fraction, rest) := match rest with
    | '.' :: rest => (rest.takeWhile Char.isDigit, rest.dropWhile Char.isDigit)
    | _ => ([], rest)
  let offset ← offset? rest
  some ⟨number hour, number minute, number second,
    number ((fraction ++ List.replicate 6 '0').take 6), offset⟩

/-- A text of the shape of a date, whatever the ranges of its parts. -/
def shape? (t : Text) : Option Timestamp := do
  let (year, rest) ← digits? 4 4 t
  let (month, rest) ← digits? 1 2 (← oneOf? ['-'] rest)
  let (day, rest) ← digits? 1 2 (← oneOf? ['-'] rest)
  match rest with
  | [] => some ⟨number year, number month, number day, none⟩
  | _ => some ⟨number year, number month, number day, some (← time? rest)⟩

/-- Whether a plain scalar is a date: without a time, month and day have two digits. -/
def isPlain (t : Text) : Bool :=
  match shape? t with
  | some ⟨_, _, _, none⟩ => t.length == 10
  | some _ => true
  | none => false

/-- The number of days of a month. -/
def daysOfMonth (year month : Nat) : Nat :=
  if month = 2 then
    if year % 4 = 0 ∧ (year % 100 ≠ 0 ∨ year % 400 = 0) then 29 else 28
  else if month = 4 ∨ month = 6 ∨ month = 9 ∨ month = 11 then 30
  else 31

/-- A timestamp whose parts lie in their ranges. An offset is looked at before all other parts. -/
def check (s : Timestamp) : Except Refusal Timestamp := do
  if let some o := s.time.bind TimeOfDay.offset then
    if o.natAbs ≥ 86400 then throw (.offsetTooLarge o)
  if s.year = 0 then throw (.outOfRange .year)
  if s.month = 0 ∨ 12 < s.month then throw (.outOfRange .month)
  if s.day = 0 ∨ daysOfMonth s.year s.month < s.day then throw (.outOfRange .day)
  if let some t := s.time then
    if 23 < t.hour then throw (.outOfRange .hour)
    if 59 < t.minute then throw (.outOfRange .minute)
    if 59 < t.second then throw (.outOfRange .second)
  return s

/-- The text without the line feed that may stand at its end. -/
def dropBreak (t : Text) : Text := if t.getLast? = some '\n' then t.dropLast else t

/-- The timestamp that a text stands for. -/
def ofText (t : Text) : Except Refusal Timestamp :=
  match shape? (dropBreak t) with
  | some s => check s
  | none => .error .notTimestamp

/-- A number of two digits. -/
def two (n : Nat) : Text := (Text.ofNat n).leftpad 2 '0'

/-- An offset with hours and minutes. -/
def offsetText (seconds : Int) : Text :=
  let minutes := seconds.natAbs / 60
  (if seconds < 0 then '-' else '+') :: (two (minutes / 60) ++ ':' :: two (minutes % 60))

/-- The text of a time. -/
def timeText (t : TimeOfDay) : Text :=
  two t.hour ++ ':' :: two t.minute ++ ':' :: two t.second ++
    (if t.micro = 0 then [] else '.' :: (Text.ofNat t.micro).leftpad 6 '0') ++
    (t.offset.map offsetText).getD []

/-- The text of a timestamp. -/
def text (s : Timestamp) : Text :=
  (Text.ofNat s.year).leftpad 4 '0' ++ '-' :: two s.month ++ '-' :: two s.day ++
    (s.time.map fun t => ' ' :: timeText t).getD []

end Timestamp

end LetterMachine.Yaml
