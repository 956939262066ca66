import LetterMachine.Text.Basic
import LetterMachine.Text.Numeral

namespace LetterMachine.Service.Host

def isOctet : Text → Bool
  | ['0'] => true
  | c :: rest =>
    c != '0' && (c :: rest).all Char.isDigit && decide (rest.length < 3) &&
      decide (Nat.ofDigitChars 10 (c :: rest) 0 < 256)
  | [] => false

/-- Whether a text is a numeric address of version four: four bytes between points. -/
def isVersionFour (t : Text) : Bool :=
  let parts := t.splitOn '.'
  parts.length == 4 && parts.all isOctet

def isGroup (t : Text) : Bool :=
  !t.isEmpty && decide (t.length ≤ 4) && t.all fun c => (Text.hexDigit? c).isSome

/-- The parts between colons, none of an empty text. -/
def parts (t : Text) : List Text := if t.isEmpty then [] else t.splitOn ':'

/-- Groups in which a last one of version four counts as two. -/
def expanded (groups : List Text) : List Text :=
  match groups.getLast? with
  | some last => if isVersionFour last then groups.dropLast ++ [['0'], ['0']] else groups
  | none => []

/-- What stands in front of two colons and after them, if there are two in a row. -/
def aroundGap? : Text → Option (Text × Text)
  | ':' :: ':' :: rest => some ([], rest)
  | c :: rest => (aroundGap? rest).map fun (before, after) => (c :: before, after)
  | [] => none

/-- Whether a text is eight groups, or fewer with a gap that stands for groups of zeros. -/
def isGroups (t : Text) : Bool :=
  match aroundGap? t with
  | some (before, after) =>
    let groups := parts before ++ expanded (parts after)
    decide (groups.length < 8) && groups.all isGroup
  | none =>
    let groups := expanded (parts t)
    groups.length == 8 && groups.all isGroup

/-- Whether a text is a numeric address of version six, perhaps with a zone after a percent sign. -/
def isVersionSix (t : Text) : Bool :=
  isGroups (t.takeWhile (· != '%')) &&
    match t.dropWhile (· != '%') with
    | [] => true
    | _ :: zone => !zone.isEmpty && !zone.contains '%'

/-- Whether a text is an address of a version after the sixth, without the letter in front: the
version, a point, and more. -/
def isLaterVersion (t : Text) : Bool :=
  let isHex (c : Char) : Bool := (Text.hexDigit? c).isSome
  match t.takeWhile isHex, t.dropWhile isHex with
  | _ :: _, '.' :: _ :: _ => true
  | _, _ => false

/-- The points that part the labels of a name: the ASCII one, and those of East Asian scripts. -/
def isPoint (c : Char) : Bool := ['.', '\u3002', '\uFF0E', '\uFF61'].contains c

def maxLabel : Nat := 63

/-- Whether a label has too few or too many characters. -/
def isMisfit (label : Text) : Bool := label.isEmpty || decide (maxLabel < label.length)

end LetterMachine.Service.Host
