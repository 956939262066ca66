import LetterMachine.Service.Host
import LetterMachine.Text.LetterCase
import LetterMachine.Text.Quoted

namespace LetterMachine.Service

/-- Why an address cannot be used. -/
inductive AddressFault where
  /-- A bracket without its partner. -/
  | unbalanced
  /-- Brackets around what is no numeric address. -/
  | notNumeric (host : Text)
  /-- Brackets around an address of version four. -/
  | versionFour
  /-- Brackets around a malformed address of a later version. -/
  | laterVersion
  /-- A character that is another form of a delimiter. -/
  | disguised (authority : Text)
  /-- A label that is empty or too long. -/
  | label
  /-- A last label that is too long. -/
  | lastLabel
  /-- A channel that is no number. -/
  | notChannel (text : Text)
  /-- A channel with more digits than are converted. -/
  | longChannel (digits : Nat)
  /-- A channel that is too large. -/
  | channelOutOfRange
  deriving DecidableEq, Repr

/-- What is said of an address that cannot be used. -/
def AddressFault.message : AddressFault → Text
  | unbalanced => "Invalid IPv6 URL".toList
  | notNumeric host => host.quoted ++ " does not appear to be an IPv4 or IPv6 address".toList
  | versionFour => "An IPv4 address cannot be in brackets".toList
  | laterVersion => "IPvFuture address is invalid".toList
  | disguised authority =>
    "netloc '".toList ++ authority ++
      "' contains invalid characters under NFKC normalization".toList
  | label => "encoding with 'idna' codec failed (UnicodeError: label empty or too long)".toList
  | lastLabel => "encoding with 'idna' codec failed (UnicodeError: label too long)".toList
  | notChannel text => "Port could not be cast to integer value as ".toList ++ text.quoted
  | longChannel digits => Text.longNumeralMessage digits
  | channelOutOfRange => "Port out of range 0-65535".toList

/-- The parts of an authority. Those that are missing are empty. -/
structure Authority where
  user : Text
  password : Text
  host : Text
  channel : Text
  deriving DecidableEq, Repr

namespace Authority

/-- Whether what stands between brackets is a numeric address of version six or later. -/
def checkNumeric (host : Text) : Except AddressFault Unit :=
  match host with
  | 'v' :: later => if Host.isLaterVersion later then .ok () else .error .laterVersion
  | _ =>
    if Host.isVersionFour host then .error .versionFour
    else if Host.isVersionSix host then .ok ()
    else .error (.notNumeric host)

/-- Check the brackets in an authority. -/
def checkBrackets (t : Text) : Except AddressFault Unit :=
  if t.contains '[' && t.contains ']' then
    checkNumeric (((t.dropWhile (· != '[')).drop 1).takeWhile (· != ']'))
  else if t.contains '[' || t.contains ']' then .error .unbalanced
  else .ok ()

/-- The characters whose compatible form has a delimiter in it. -/
def disguises : CodeRanges :=
  [(0x2047, 0x2049), (0x2100, 0x2101), (0x2105, 0x2106), (0x2A74, 0x2A74), (0xFE13, 0xFE13),
    (0xFE16, 0xFE16), (0xFE55, 0xFE56), (0xFE5F, 0xFE5F), (0xFE6B, 0xFE6B), (0xFF03, 0xFF03),
    (0xFF0F, 0xFF0F), (0xFF1A, 0xFF1A), (0xFF1F, 0xFF20)]

/-- Check that no character of an authority could be taken for a delimiter. -/
def checkForms (t : Text) : Except AddressFault Unit :=
  if t.any disguises.has then .error (.disguised t) else .ok ()

/-- The text after the first of a character, empty if there is none. -/
def after (c : Char) (t : Text) : Text := (t.dropWhile (· != c)).drop 1

/-- The parts of an authority: a user ends at the last at sign, a host in brackets at the closing
one, and any other host at a colon. -/
def ofText (t : Text) : Authority :=
  let place := (t.reverse.takeWhile (· != '@')).reverse
  let person := t.take (t.length - place.length - 1)
  let (host, channel) :=
    if place.contains '[' then
      let inner := after '[' place
      (inner.takeWhile (· != ']'), after ':' (after ']' inner))
    else (place.takeWhile (· != ':'), after ':' place)
  { user := person.takeWhile (· != ':')
    password := after ':' person
    host := Text.lower (host.takeWhile (· != '%')) ++ host.dropWhile (· != '%')
    channel := channel }

/-- Check the labels of a host. Only the last one may be empty. -/
def checkHost (host : Text) : Except AddressFault Unit :=
  if host.all fun c => decide (c.toNat < 128) then
    let labels := host.splitOn '.'
    if labels.dropLast.any Host.isMisfit then .error .label
    else if labels.getLast?.any fun l => decide (Host.maxLabel < l.length) then .error .lastLabel
    else .ok ()
  else
    let labels := host.splitOnP Host.isPoint
    let labels := if labels.getLast? = some [] then labels.dropLast else labels
    if labels.any Host.isMisfit then .error .label else .ok ()

/-- The number of a channel, zero for none. -/
def channelNumber (channel : Text) : Except AddressFault Nat :=
  if !channel.all Char.isDigit then .error (.notChannel channel)
  else if Text.maxDigits < channel.length then .error (.longChannel channel.length)
  else
    let n := Nat.ofDigitChars 10 channel 0
    if n ≤ 65535 then .ok n else .error .channelOutOfRange

/-- The text with escapes in place of brackets. -/
def withoutBrackets (t : Text) : Text :=
  t.flatMap fun c =>
    match c with
    | '[' => "%5B".toList
    | ']' => "%5D".toList
    | _ => [c]

/-- An authority in its usual spelling, in which only a host has brackets. -/
def normal (t : Text) : Except AddressFault Text := do
  let a := ofText t
  checkHost a.host
  let channel ← channelNumber a.channel
  let password := if a.password.isEmpty then [] else ':' :: a.password
  let person := if a.user.isEmpty then [] else withoutBrackets (a.user ++ password) ++ ['@']
  let host := if a.host.contains ':' then '[' :: a.host ++ [']'] else a.host
  return person ++ host ++ if channel = 0 then [] else ':' :: Text.ofNat channel

end Authority

end LetterMachine.Service
