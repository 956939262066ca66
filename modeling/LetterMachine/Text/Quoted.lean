import LetterMachine.Text.Numeral
import LetterMachine.Text.Printable

namespace LetterMachine.Text

/-- The quote a text is shown between: the double one only if the text holds single quotes and no
double ones. -/
def quoteFor (t : Text) : Char := if t.contains '\'' && !t.contains '"' then '"' else '\''

def escape (quote c : Char) : Text :=
  if c = quote ∨ c = '\\' then ['\\', c]
  else if c = '\n' then ['\\', 'n']
  else if c = '\r' then ['\\', 'r']
  else if c = '\t' then ['\\', 't']
  else if isPrintable c then [c]
  else if c.toNat ≤ 0xFF then '\\' :: 'x' :: hex 2 c.toNat
  else if c.toNat ≤ 0xFFFF then '\\' :: 'u' :: hex 4 c.toNat
  else '\\' :: 'U' :: hex 8 c.toNat

def quoted (t : Text) : Text :=
  let quote := quoteFor t
  quote :: (t.flatMap (escape quote) ++ [quote])

/-- Items between square brackets, with a comma and a blank between them. -/
def bracketed (items : List Text) : Text := '[' :: ([',', ' '].intercalate items ++ [']'])

def quotedList (ts : List Text) : Text := bracketed (ts.map quoted)

/-- A byte between the given quotes: letters of the ASCII range as they are. -/
def escapeByte (quote : Char) (b : UInt8) : Text :=
  let c := Char.ofNat b.toNat
  if c = quote ∨ c = '\\' then ['\\', c]
  else if c = '\n' then ['\\', 'n']
  else if c = '\r' then ['\\', 'r']
  else if c = '\t' then ['\\', 't']
  else if 0x20 ≤ b.toNat ∧ b.toNat ≤ 0x7E then [c]
  else '\\' :: 'x' :: hex 2 b.toNat

/-- Bytes in quotes, marked by a letter in front. -/
def quotedBytes (bytes : List UInt8) : Text :=
  let quote := quoteFor (bytes.map fun b => Char.ofNat b.toNat)
  'b' :: quote :: (bytes.flatMap (escapeByte quote) ++ [quote])

end LetterMachine.Text
