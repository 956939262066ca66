import LetterMachine.Text.Basic

namespace LetterMachine.Text

def ofNat (n : Nat) : Text := Nat.toDigits 10 n

/-- The decimal digits of an integer, with a minus sign in front of a negative one. -/
def ofInt : Int → Text
  | .ofNat n => ofNat n
  | .negSucc n => '-' :: ofNat (n + 1)

def padLeft (width : Nat) (t : Text) : Text := t.leftpad width ' '

/-- The hexadecimal digits of a number, with zeros in front so that they fill the width. -/
def hex (width : Nat) (n : Nat) : Text := (Nat.toDigits 16 n).leftpad width '0'

/-- The value of a digit in any base up to sixteen. -/
def hexDigit? (c : Char) : Option Nat :=
  if c.isDigit then some (c.toNat - 48)
  else if 'a' ≤ c ∧ c ≤ 'f' then some (c.toNat - 87)
  else if 'A' ≤ c ∧ c ≤ 'F' then some (c.toNat - 55)
  else none

/-- The value of a numeral in a base, if all its digits belong to the base. -/
def numeral? (base : Nat) (digits : Text) : Option Nat :=
  digits.foldlM (fun value c => do
    let d ← hexDigit? c
    if d < base then some (value * base + d) else none) 0

/-- The most decimal digits that are converted between a text and a number. -/
def maxDigits : Nat := 4300

/-- Whether a number has more decimal digits than are converted. The sign does not count. -/
def tooManyDigits (n : Int) : Bool := decide (maxDigits < (ofNat n.natAbs).length)

def longNumberMessage : Text :=
  "Exceeds the limit (4300 digits) for integer string conversion; use sys.set_int_max_str_digits() to increase the limit".toList

def longNumeralMessage (digits : Nat) : Text :=
  "Exceeds the limit (4300 digits) for integer string conversion: value has ".toList ++
    ofNat digits ++
    " digits; use sys.set_int_max_str_digits() to increase the limit".toList

end LetterMachine.Text
