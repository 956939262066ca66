import LetterMachine.Text.Utf8
import LetterMachine.Yaml.Cursor
import LetterMachine.Yaml.Token

namespace LetterMachine.Yaml.Property

/-- The name after the indicator of an anchor or an alias. -/
def name : Scan Text := do
  Scan.skip 1
  let t ← Scan.takeWhile isNameChar
  let next ← Scan.peek 0
  if t.isEmpty || !(isGap next || isOneOf next "?:,]\x7d%@\x60".toList) then Scan.fail .name
  return t

/-- A handle: an exclamation mark, or a name between two of them. -/
def handle (what : Malformed) : Scan Text := do
  if (← Scan.peek 0) != some '!' then Scan.fail what
  let rest := (← get).rest.tail
  if rest.head? == some ' ' then
    Scan.skip 1
    return ['!']
  let t := rest.takeWhile isNameChar
  if rest[t.length]? != some '!' then Scan.fail what
  Scan.skip (t.length + 2)
  return '!' :: (t ++ ['!'])

/-- Whether a character may stand in the rest of a tag. -/
def isUriChar (c : Char) : Bool :=
  isNameChar c || ";/?:@&=+$,_.!~*'()[]%".toList.contains c

/-- Bytes that are written as two hexadecimal digits after a percent sign each. -/
def escapedBytes (what : Malformed) : Nat → List UInt8 → Scan (List UInt8)
  | 0, done => return done
  | n + 1, done => do
    if (← Scan.peek 0) != some '%' then return done
    Scan.skip 1
    match (← Scan.peek 0).bind Text.hexDigit?, (← Scan.peek 1).bind Text.hexDigit? with
    | some high, some low =>
      Scan.skip 2
      escapedBytes what n (done ++ [UInt8.ofNat (16 * high + low)])
    | _, _ => Scan.fail what

/-- The parts of a tag, with the escaped ones decoded. -/
def uriParts (what : Malformed) : Nat → Text → Scan Text
  | 0, done => return done
  | n + 1, done => do
    let part ← Scan.takeWhile fun c => isUriChar c && c != '%'
    if (← Scan.peek 0) != some '%' then return done ++ part
    let bytes ← escapedBytes what (← get).rest.length []
    match Text.Utf8.decode bytes with
    | .ok t => uriParts what n (done ++ part ++ t)
    | .error _ => Scan.fail what

/-- The rest of a tag, or what a handle stands for. It is not empty. -/
def uri (what : Malformed) : Scan Text := do
  let before := (← get).index
  let t ← uriParts what ((← get).rest.length + 1) []
  if (← get).index == before then Scan.fail what
  return t

def tag : Scan Token := do
  let next ← Scan.peek 1
  let (handle, suffix) ←
    if next == some '<' then do
      Scan.skip 2
      let suffix ← uri .tag
      if (← Scan.peek 0) != some '>' then Scan.fail .tag
      Scan.skip 1
      pure (none, suffix)
    else if isGap next then do
      Scan.skip 1
      pure (none, ['!'])
    else do
      let word := (← get).rest.tail.takeWhile fun c => !endsWord (some c)
      if word.contains '!' then
        let h ← handle .tag
        pure (some h, ← uri .tag)
      else do
        Scan.skip 1
        pure (some ['!'], ← uri .tag)
  if endsWord (← Scan.peek 0) then return .tag handle suffix
  else Scan.fail .tag

def versionNumber : Scan Nat := do
  let digits ← Scan.takeWhile Char.isDigit
  if digits.isEmpty then Scan.fail .directive
  if Text.maxDigits < digits.length then throw (.refused (.longNumeral digits.length))
  return Nat.ofDigitChars 10 digits 0

def version : Scan Directive := do
  Scan.skipSpaces
  let major ← versionNumber
  if (← Scan.peek 0) != some '.' then Scan.fail .directive
  Scan.skip 1
  let minor ← versionNumber
  if endsWord (← Scan.peek 0) then return .version major minor
  else Scan.fail .directive

/-- A handle and what it stands for. -/
def tagDirective : Scan Directive := do
  Scan.skipSpaces
  let h ← handle .directive
  if (← Scan.peek 0) != some ' ' then Scan.fail .directive
  Scan.skipSpaces
  let replacement ← uri .directive
  if endsWord (← Scan.peek 0) then return .tag h replacement
  else Scan.fail .directive

def directive : Scan Directive := do
  Scan.skip 1
  let t ← Scan.takeWhile isNameChar
  if t.isEmpty || !endsWord (← Scan.peek 0) then Scan.fail .directive
  let d ←
    if t = "YAML".toList then version
    else if t = "TAG".toList then tagDirective
    else do
      Scan.skipWhile fun c => !isBreak c
      pure .other
  Scan.endLine .directive
  return d

end LetterMachine.Yaml.Property
