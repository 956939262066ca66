import LetterMachine.Decimal.Nearest
import LetterMachine.Service.Json
import LetterMachine.Text.Encoding

namespace LetterMachine.Service.Json

/-- Why a text has no JSON value: it is malformed, or its values are nested too deeply. -/
inductive Fault where
  | malformed
  | tooDeep
  deriving DecidableEq, Repr

abbrev Read := Except Fault (Json × Text)

def isSpace (c : Char) : Bool := c == ' ' || c == '\t' || c == '\n' || c == '\r'

def skipSpace (t : Text) : Text := t.dropWhile isSpace

/-- The character that a letter after a backslash stands for. -/
def escaped? : Char → Option Char
  | '"' => some '"'
  | '\\' => some '\\'
  | '/' => some '/'
  | 'b' => some '\x08'
  | 'f' => some '\x0C'
  | 'n' => some '\n'
  | 'r' => some '\r'
  | 't' => some '\t'
  | _ => none

/-- The number that four hexadecimal digits stand for. -/
def unit? (a b c d : Char) : Option Nat := Text.numeral? 16 [a, b, c, d]

/-- The rest of a string after what has been read so far, and the text after its closing quote. -/
def stringFrom (d : Text.Utf16.Draft) : Text → Option (Text × Text)
  | [] => none
  | '"' :: rest => some (d.text, rest)
  | '\\' :: 'u' :: w :: x :: y :: z :: rest =>
    match unit? w x y z with
    | some n => stringFrom (d.pushUnit n) rest
    | none => none
  | '\\' :: c :: rest =>
    match escaped? c with
    | some c => stringFrom (d.push c) rest
    | none => none
  | c :: rest => if c.toNat < 0x20 then none else stringFrom (d.push c) rest

def digits (t : Text) : Text × Text := (t.takeWhile Char.isDigit, t.dropWhile Char.isDigit)

/-- The places after a point, if a point and a digit stand here. -/
def fraction (t : Text) : Option Text × Text :=
  match t with
  | '.' :: rest =>
    match digits rest with
    | ([], _) => (none, t)
    | (places, rest) => (some places, rest)
  | _ => (none, t)

def exponent (t : Text) : Option Int × Text :=
  match t with
  | e :: rest =>
    if e = 'e' ∨ e = 'E' then
      let (negative, rest) := match rest with
        | '-' :: rest => (true, rest)
        | '+' :: rest => (false, rest)
        | _ => (false, rest)
      match digits rest with
      | ([], _) => (none, t)
      | (ds, rest) =>
        let n : Int := Nat.ofDigitChars 10 ds 0
        (some (if negative then -n else n), rest)
    else (none, t)
  | [] => (none, t)

/-- The digits in front of a point: a zero alone, or digits of which the first is not zero. -/
def whole (t : Text) : Text × Text :=
  match t with
  | '0' :: rest => (['0'], rest)
  | _ => digits t

/-- A number without its sign. One without a point and an exponent is an integer, which may not have
more digits than are converted. -/
def number (negative : Bool) (t : Text) : Read :=
  let (ds, rest) := whole t
  if ds.isEmpty then .error .malformed
  else
    let (places, rest) := fraction rest
    let (power, rest) := exponent rest
    match places, power with
    | none, none =>
      if Text.maxDigits < ds.length then .error .malformed
      else
        let n : Int := Nat.ofDigitChars 10 ds 0
        .ok (.int (if negative then -n else n), rest)
    | places, power =>
      let places := places.getD []
      let x := Decimal.ofDecimal (Nat.ofDigitChars 10 (ds ++ places) 0)
        (power.getD 0 - places.length)
      .ok (.float (if negative then -x else x), rest)

def words : List (Text × Json) :=
  [("null".toList, .null), ("true".toList, .bool true), ("false".toList, .bool false),
    ("NaN".toList, .float (0.0 / 0.0)), ("Infinity".toList, .float (1.0 / 0.0)),
    ("-Infinity".toList, .float (-1.0 / 0.0))]

/-- A value that is no text and has no parts. -/
def scalar (t : Text) : Read :=
  match words.find? fun w => w.1.isPrefixOf t with
  | some (word, v) => .ok (v, t.drop word.length)
  | none =>
    match t with
    | '-' :: rest => number true rest
    | _ => number false t

mutual

/-- The value at the start of a text. Arrays and objects may be nested as deeply as there is room.
-/
def value : Nat → Nat → Text → Read
  | 0, _, _ => .error .malformed
  | n + 1, room, t =>
    match t with
    | '"' :: rest =>
      match stringFrom {} rest with
      | some (s, rest) => .ok (.str s, rest)
      | none => .error .malformed
    | '[' :: rest =>
      match room with
      | 0 => .error .tooDeep
      | room + 1 =>
        match skipSpace rest with
        | ']' :: rest => .ok (.array [], rest)
        | rest => items n room [] rest
    | '{' :: rest =>
      match room with
      | 0 => .error .tooDeep
      | room + 1 =>
        match skipSpace rest with
        | '}' :: rest => .ok (.object [], rest)
        | rest => fields n room [] rest
    | _ => scalar t

/-- The items of an array after those read so far. -/
def items : Nat → Nat → List Json → Text → Read
  | 0, _, _, _ => .error .malformed
  | n + 1, room, done, t =>
    match value n room t with
    | .error e => .error e
    | .ok (v, rest) =>
      match skipSpace rest with
      | ',' :: rest => items n room (v :: done) (skipSpace rest)
      | ']' :: rest => .ok (.array (v :: done).reverse, rest)
      | _ => .error .malformed

/-- The fields of an object after those read so far. -/
def fields : Nat → Nat → List (Text × Json) → Text → Read
  | 0, _, _, _ => .error .malformed
  | n + 1, room, done, t =>
    match t with
    | '"' :: rest =>
      match stringFrom {} rest with
      | none => .error .malformed
      | some (name, rest) =>
        match skipSpace rest with
        | ':' :: rest =>
          match value n room (skipSpace rest) with
          | .error e => .error e
          | .ok (v, rest) =>
            match skipSpace rest with
            | ',' :: rest => fields n room ((name, v) :: done) (skipSpace rest)
            | '}' :: rest => .ok (.object ((name, v) :: done).reverse, rest)
            | _ => .error .malformed
        | _ => .error .malformed
    | _ => .error .malformed

end

/-- The value that a text stands for, with values nested no deeper than so many levels. -/
def ofText (depth : Nat) (t : Text) : Except Fault Json :=
  match value (2 * t.length + 2) depth (skipSpace t) with
  | .error e => .error e
  | .ok (v, rest) => if (skipSpace rest).isEmpty then .ok v else .error .malformed

/-- The value that bytes stand for. -/
def ofBytes (depth : Nat) (bytes : List UInt8) : Except Fault Json :=
  match Text.ofBytes? bytes with
  | some t => ofText depth t
  | none => .error .malformed

end LetterMachine.Service.Json
