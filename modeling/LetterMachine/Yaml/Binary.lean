import LetterMachine.Yaml.Error

namespace LetterMachine.Yaml.Binary

def digit? (c : Char) : Option Nat :=
  if 'A' ≤ c ∧ c ≤ 'Z' then some (c.toNat - 65)
  else if 'a' ≤ c ∧ c ≤ 'z' then some (c.toNat - 71)
  else if c.isDigit then some (c.toNat + 4)
  else if c = '+' then some 62
  else if c = '/' then some 63
  else none

/-- Read on after so many digits of a group of four, with the bits that are left of them and the
padding just before. Padding that fills a group ends the data; other padding is passed over. -/
def groups : Nat → Nat → Nat → List UInt8 → Text → Option (List UInt8)
  | place, _, _, done, [] => if place = 0 then some done.reverse else none
  | place, bits, padding, done, c :: rest =>
    if c = '=' then
      if 2 ≤ place ∧ 4 ≤ place + padding + 1 then some done.reverse
      else groups place bits (if 2 ≤ place then padding + 1 else padding) done rest
    else match digit? c with
      | none => groups place bits padding done rest
      | some d =>
        match place with
        | 0 => groups 1 d 0 done rest
        | 1 => groups 2 (d % 16) 0 (UInt8.ofNat (bits * 4 + d / 16) :: done) rest
        | 2 => groups 3 (d % 4) 0 (UInt8.ofNat (bits * 16 + d / 4) :: done) rest
        | _ => groups 0 0 0 (UInt8.ofNat (bits * 64 + d) :: done) rest

def decode (t : Text) : Except Error (List UInt8) :=
  if t.all fun c => c.toNat < 128 then
    match groups 0 0 0 [] t with
    | some bytes => .ok bytes
    | none => .error (.malformed .binary)
  else .error (.malformed .binary)

end LetterMachine.Yaml.Binary
