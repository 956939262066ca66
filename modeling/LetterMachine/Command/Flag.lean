import LetterMachine.Text.Basic

namespace LetterMachine.Command

inductive Flag where
  | help
  | config
  | verbose
  | listing
  | strict
  | noRun
  | version
  deriving DecidableEq, Repr

namespace Flag

def all : List Flag := [help, config, verbose, listing, strict, noRun, version]

def letter? : Flag → Option Char
  | help => some 'h'
  | config => some 'c'
  | verbose => some 'v'
  | listing => some 'l'
  | strict | noRun | version => none

def longName : Flag → Text
  | help => "--help".toList
  | config => "--config".toList
  | verbose => "--verbose".toList
  | listing => "--listing".toList
  | strict => "--strict".toList
  | noRun => "--no-run".toList
  | version => "--version".toList

/-- Whether a value belongs to the option. -/
def takesValue : Flag → Bool
  | config => true
  | _ => false

/-- An option by all its names. -/
def title (f : Flag) : Text :=
  match f.letter? with
  | some c => '-' :: c :: '/' :: f.longName
  | none => f.longName

def ofLetter? (c : Char) : Option Flag := all.find? fun f => f.letter? == some c

/-- The options with a long name that starts with the given text. -/
def startingWith (t : Text) : List Flag := all.filter fun f => t.isPrefixOf f.longName

end Flag

end LetterMachine.Command
