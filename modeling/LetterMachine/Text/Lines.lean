import LetterMachine.Text.Basic

namespace LetterMachine.Text

/-- The line without the carriage return that may stand at its end. -/
def dropReturn (line : Text) : Text :=
  if line.getLast? = some '\r' then line.dropLast else line

/-- The lines of a text, without their line feeds and without one carriage return before each.
A line feed at the end of the text opens no further line. -/
def lines (t : Text) : List Text :=
  let pieces := t.splitOn '\n'
  (if pieces.getLast? = some [] then pieces.dropLast else pieces).map dropReturn

theorem lines_nil : lines [] = [] := rfl

/-- Every carriage return, with a line feed right after it or alone, becomes one line feed. -/
def unifyBreaks : Text → Text
  | [] => []
  | '\r' :: '\n' :: rest => '\n' :: unifyBreaks rest
  | c :: rest => (if c = '\r' then '\n' else c) :: unifyBreaks rest

end LetterMachine.Text
