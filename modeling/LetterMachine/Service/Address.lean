import LetterMachine.Service.Authority

namespace LetterMachine.Service

structure Address where
  scheme : Text
  authority : Text
  path : Text
  deriving DecidableEq, Repr

namespace Address

def isSchemeChar (c : Char) : Bool := c.isAlphanum || c == '+' || c == '-' || c == '.'

/-- The scheme in front of the first colon, and what follows. A scheme starts with a letter; without
one it is empty. -/
def splitScheme (t : Text) : Text × Text :=
  let name := t.takeWhile (· != ':')
  match name, t.drop name.length with
  | c :: _, _ :: rest =>
    if c.isAlpha && name.all isSchemeChar then (name.map Char.toLower, rest) else ([], t)
  | _, _ => ([], t)

/-- Whether a character ends an authority. -/
def isDelimiter (c : Char) : Bool := c == '/' || c == '?' || c == '#'

/-- The authority that two slashes announce, and what follows. -/
def splitAuthority : Text → Text × Text
  | '/' :: '/' :: rest => rest.span fun c => !isDelimiter c
  | t => ([], t)

/-- The text of an address that counts: without spaces and controls in front, and without tabs and
line breaks. -/
def visible (t : Text) : Text :=
  (t.dropWhile fun c => decide (c.toNat ≤ 0x20)).filter fun c =>
    c != '\t' && c != '\n' && c != '\r'

def read (t : Text) : Except AddressFault Address := do
  let (scheme, t) := splitScheme (visible t)
  let (authority, t) := splitAuthority t
  Authority.checkBrackets authority
  Authority.checkForms authority
  return ⟨scheme, authority, t.takeWhile fun c => c != '?' && c != '#'⟩

def normal (a : Address) : Except AddressFault Text := do
  let authority ← Authority.normal a.authority
  return (if a.scheme.isEmpty then [] else a.scheme ++ [':']) ++
    (if authority.isEmpty then [] else '/' :: '/' :: authority) ++ a.path

/-- The text with the ASCII characters in place of their escapes: a percent sign and two digits. -/
def unescaped : Text → Text
  | '%' :: a :: b :: rest =>
    match Text.numeral? 16 [a, b] with
    | some n => if n < 128 then Char.ofNat n :: unescaped rest else '%' :: a :: b :: unescaped rest
    | none => '%' :: unescaped (a :: b :: rest)
  | c :: rest => c :: unescaped rest
  | [] => []

end Address

/-- Where a request goes to: the scheme of its address, empty if it has none, and a path without
escapes and with one slash in front. -/
structure Target where
  scheme : Text
  path : Text
  deriving DecidableEq, Repr

/-- The target of an address. What is left of it as a path may have a scheme and an authority again,
which are dropped once more. -/
def Target.ofAddress (t : Text) : Except AddressFault Target := do
  let outer ← Address.read t
  let inner ← Address.read outer.path
  let path ← (← Address.read inner.path).normal
  Authority.checkBrackets (← Authority.normal outer.authority)
  return ⟨outer.scheme, '/' :: (Address.unescaped path).dropWhile (· == '/')⟩

end LetterMachine.Service
