import LetterMachine.Yaml.Cursor

namespace LetterMachine.Yaml.Plain

/-- The start of a text up to the first gap, to a colon before a gap, and, inside brackets, to a
character that has a meaning there. -/
def chunk (flow : Bool) : Text → Text
  | [] => []
  | c :: rest =>
    let next := rest.head?
    if isGap (some c) || (c == ':' && (isGap next || (flow && isOneOf next flowIndicators))) ||
        (flow && isOneOf (some c) ('?' :: flowIndicators)) then []
    else c :: chunk flow rest

/-- The breaks of empty lines, up to the next character or to a line that ends the document. -/
def emptyLines : Nat → Text → Scan (Option Text)
  | 0, breaks => return some breaks
  | n + 1, breaks => do
    match ← Scan.peek 0 with
    | some ' ' =>
      Scan.skip 1
      emptyLines n breaks
    | c =>
      if c.any isBreak then
        let b ← Scan.lineBreak
        if ← Scan.atSeparator then return none
        emptyLines n (breaks ++ b)
      else return some breaks

/-- What stands for the spaces and breaks after a chunk, and whether a line ended among them. One
break is a space, and further ones are kept. It is empty where the scalar ends. -/
def spaces : Scan (Text × Bool) := do
  let blanks ← Scan.takeWhile (· == ' ')
  if (← Scan.peek 0).any isBreak then
    let first ← Scan.lineBreak
    if ← Scan.atSeparator then return ([], true)
    match ← emptyLines (← get).rest.length [] with
    | none => return ([], true)
    | some breaks =>
      let joint := if first ≠ ['\n'] then first else if breaks.isEmpty then [' '] else []
      return (joint ++ breaks, true)
  else return (blanks, false)

/-- Read chunks until the scalar ends: at a comment, where no chunk starts, or, outside brackets, on
a line that is indented too little. -/
def chunks (flow : Bool) (indent : Int) : Nat → Text → Text → Bool → Scan (Text × Bool)
  | 0, done, _, crossed => return (done, crossed)
  | n + 1, done, blanks, crossed => do
    let rest := (← get).rest
    let part := chunk flow rest
    if rest.head? == some '#' || part.isEmpty then return (done, crossed)
    Scan.skip part.length
    let (blanks', crossed') ← spaces
    let done := done ++ blanks ++ part
    let k ← get
    if blanks'.isEmpty || k.rest.head? == some '#' || (!flow && decide ((k.column : Int) < indent))
    then return (done, crossed')
    chunks flow indent n done blanks' crossed'

/-- A plain scalar, and whether the reading ended at the start of a line. -/
def read (flow : Bool) (indent : Int) : Scan (Text × Bool) := do
  chunks flow indent (← get).rest.length [] [] false

end LetterMachine.Yaml.Plain
