import LetterMachine.Text.Numeral
import LetterMachine.Text.Wide
import LetterMachine.Yaml.Cursor

namespace LetterMachine.Yaml.Quoted

/-- The characters that one letter after a backslash stands for. -/
def escapes : List (Char × Char) :=
  [('0', '\u0000'), ('a', '\u0007'), ('b', '\u0008'), ('t', '\t'), ('\t', '\t'), ('n', '\n'),
    ('v', '\u000B'), ('f', '\u000C'), ('r', '\r'), ('e', '\u001B'), (' ', ' '), ('"', '"'),
    ('\\', '\\'), ('/', '/'), ('N', '\u0085'), ('_', '\u00A0'), ('L', '\u2028'), ('P', '\u2029')]

/-- The number of hexadecimal digits after a letter. -/
def escapeWidths : List (Char × Nat) := [('x', 2), ('u', 4), ('U', 8)]

/-- The character with a number that an escape gives. -/
def codePoint (n : Nat) : Except Refusal Char :=
  if n ≥ 0x80000000 then .error .escapeTooLarge
  else if n > 0x10FFFF then .error .notCodePoint
  -- a half of a pair is no character, and is replaced
  else .ok (Text.Utf32.char n)

/-- Breaks and blanks at the start of lines. No document may end inside a scalar. -/
def breaks : Nat → Text → Scan Text
  | 0, done => return done
  | n + 1, done => do
    if ← Scan.atSeparator then Scan.fail .unclosed
    Scan.skipWhile fun c => c == ' ' || c == '\t'
    if (← Scan.peek 0).any isBreak then
      let b ← Scan.lineBreak
      breaks n (done ++ b)
    else return done

/-- What stands for the blanks and breaks between two parts of a scalar. -/
def spaces : Scan Text := do
  let blanks ← Scan.takeWhile fun c => c == ' ' || c == '\t'
  match ← Scan.peek 0 with
  | none => Scan.fail .unclosed
  | some c =>
    if isBreak c then
      let first ← Scan.lineBreak
      let more ← breaks ((← get).rest.length + 1) []
      let joint := if first ≠ ['\n'] then first else if more.isEmpty then [' '] else []
      return joint ++ more
    else return blanks

/-- What an escape stands for. The backslash has been read. -/
def escape : Scan Text := do
  match ← Scan.peek 0 with
  | none => Scan.fail .escape
  | some c =>
    match escapes.lookup c, escapeWidths.lookup c with
    | some d, _ =>
      Scan.skip 1
      return [d]
    | none, some width =>
      Scan.skip 1
      let digits := (← get).rest.take width
      match Text.numeral? 16 digits with
      | some n =>
        if digits.length < width then Scan.fail .escape
        match codePoint n with
        | .error r => throw (.refused r)
        | .ok d =>
          Scan.skip width
          return [d]
      | none => Scan.fail .escape
    | none, none =>
      if isBreak c then
        let _ ← Scan.lineBreak
        breaks ((← get).rest.length + 1) []
      else Scan.fail .escape

/-- A part of a scalar without blanks and breaks, except for escaped ones. -/
def solid (double : Bool) : Nat → Text → Scan Text
  | 0, done => return done
  | n + 1, done => do
    let part ← Scan.takeWhile fun c =>
      !(isGap (some c) || c == '\'' || c == '"' || c == '\\')
    let done := done ++ part
    match ← Scan.peek 0, ← Scan.peek 1 with
    | some '\'', next =>
      if double then
        Scan.skip 1
        solid double n (done ++ ['\''])
      else if next == some '\'' then
        Scan.skip 2
        solid double n (done ++ ['\''])
      else return done
    | some '"', _ =>
      if double then return done
      else
        Scan.skip 1
        solid double n (done ++ ['"'])
    | some '\\', _ =>
      Scan.skip 1
      if double then
        let d ← escape
        solid double n (done ++ d)
      else solid double n (done ++ ['\\'])
    | _, _ => return done

/-- The parts of a scalar up to its closing quote. -/
def parts (double : Bool) (quote : Char) : Nat → Text → Scan Text
  | 0, _ => Scan.fail .unclosed
  | n + 1, done => do
    if (← Scan.peek 0) == some quote then
      Scan.skip 1
      return done
    let blanks ← spaces
    let part ← solid double (← get).rest.length []
    parts double quote n (done ++ blanks ++ part)

/-- A quoted scalar. -/
def read (double : Bool) : Scan Text := do
  Scan.skip 1
  let length := (← get).rest.length
  let first ← solid double length []
  parts double (if double then '"' else '\'') (length + 1) first

end LetterMachine.Yaml.Quoted
