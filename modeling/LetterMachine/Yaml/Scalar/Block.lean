import LetterMachine.Yaml.Cursor

namespace LetterMachine.Yaml.Block

/-- What happens to the breaks at the end: the last one is kept, none is, or all are. -/
inductive Chomping where
  | clip
  | strip
  | keep
  deriving DecidableEq, Repr

/-- A sign that tells what happens to the last breaks. -/
def chomping? : Option Char → Option Chomping
  | some '+' => some .keep
  | some '-' => some .strip
  | _ => none

/-- A digit that tells the indentation. It must not be zero. -/
def increment : Scan (Option Nat) := do
  match ← Scan.peek 0 with
  | none => return none
  | some c =>
    if c == '0' then Scan.fail .header
    else if c.isDigit then
      Scan.skip 1
      return some (c.toNat - 48)
    else return none

/-- The sign, if one stands here. -/
def sign : Scan (Option Chomping) := do
  match chomping? (← Scan.peek 0) with
  | none => return none
  | some s =>
    Scan.skip 1
    return some s

/-- The header after the indicator: a sign and a digit in either order. -/
def header : Scan (Chomping × Option Nat) := do
  let before ← sign
  let digit ← increment
  let after ← if before.isNone && digit.isSome then sign else pure none
  if endsWord (← Scan.peek 0) then return ((before.or after).getD .clip, digit)
  else Scan.fail .header

/-- The breaks before the first line, and the deepest column reached on them. -/
def leading : Nat → Text → Nat → Scan (Text × Nat)
  | 0, breaks, depth => return (breaks, depth)
  | n + 1, breaks, depth => do
    match ← Scan.peek 0 with
    | some ' ' =>
      Scan.skip 1
      leading n breaks (max depth (← get).column)
    | c =>
      if c.any isBreak then
        let b ← Scan.lineBreak
        leading n (breaks ++ b) depth
      else return (breaks, depth)

/-- Pass over spaces up to the indentation. -/
def indentTo (indent : Nat) : Scan Unit := do
  let k ← get
  Scan.skip ((k.rest.take (indent - k.column)).takeWhile (· == ' ')).length

/-- The breaks of empty lines, with the indentation of the line after them passed over. -/
def breaks (indent : Nat) : Nat → Text → Scan Text
  | 0, done => return done
  | n + 1, done => do
    indentTo indent
    if (← Scan.peek 0).any isBreak then
      let b ← Scan.lineBreak
      breaks indent n (done ++ b)
    else return done

/-- Whether a line of the scalar starts here. -/
def atLine (indent : Nat) : Scan Bool := do
  let k ← get
  return k.column == indent && !k.rest.isEmpty

/-- The lines of the scalar: their text, the break after the last of them, and the breaks after
that. A break between two lines that both start with a visible character is folded into a space. -/
def lines (folded : Bool) (indent : Nat) : Nat → Text → Text → Text → Scan (Text × Text × Text)
  | 0, done, last, more => return (done, last, more)
  | n + 1, done, last, more => do
    if !(← atLine indent) then return (done, last, more)
    let visible (c : Option Char) : Bool := !isOneOf c [' ', '\t']
    let flush := visible (← Scan.peek 0)
    let line ← Scan.takeWhile fun c => !isBreak c
    let done := done ++ more ++ line
    let last ← Scan.lineBreak
    let more ← breaks indent ((← get).rest.length + 1) []
    if ← atLine indent then
      let joint :=
        if folded && last == ['\n'] && flush && visible (← Scan.peek 0) then
          if more.isEmpty then [' '] else []
        else last
      lines folded indent n (done ++ joint) last more
    else return (done, last, more)

/-- A block scalar inside a collection of the given indentation. -/
def read (folded : Bool) (outer : Int) : Scan Text := do
  Scan.skip 1
  let (chomp, digit) ← header
  Scan.endLine .header
  let least := (max (outer + 1) 1).toNat
  let length := (← get).rest.length + 1
  let (indent, more) ← match digit with
    | none => do
      let (more, depth) ← leading length [] 0
      pure (max least depth, more)
    | some d => do
      let indent := least + d - 1
      pure (indent, ← breaks indent length [])
  let (text, last, more) ← lines folded indent length [] [] more
  return match chomp with
    | .strip => text
    | .clip => text ++ last
    | .keep => text ++ last ++ more

end LetterMachine.Yaml.Block
