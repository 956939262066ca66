import LetterMachine.Decoding
import LetterMachine.Program
import LetterMachine.Report
import LetterMachine.Text.Blank
import LetterMachine.Text.Lines

/-!
Assembly: the program that a source text stands for. Lines outside blocks are the instructions to
run. A directive, which starts with a dot, opens a block, and the end directive closes it.
-/

namespace LetterMachine

/-- A line without its comment, which starts at the first semicolon. -/
def stripComment (line : Text) : Text := line.takeWhile fun c => c != ';'

/-- The tokens of a line. -/
def tokensOfLine (line : Text) : List Text := (stripComment line).words

/-- The tokens of every line of a source text. A line of no tokens has its place too. -/
def tokenLines (source : Text) : List (List Text) := source.lines.map tokensOfLine

namespace LineFault

def detail : LineFault → Text
  | notBinary token => "Not a valid binary number: ".toList ++ token
  | binaryTooLarge token => "Binary number ".toList ++ token ++ " does not fit in 16 bits".toList
  | unresolved token => "Cannot resolve operand: ".toList ++ token
  | longNumeral digits => Text.longNumeralMessage digits
  | empty => "Empty instruction".toList
  | unknownInstruction token => "Unknown instruction: \"".toList ++ token ++ ['"']
  | exponentTooLarge e => "POW exponent ".toList ++ Text.ofNat e ++ " does not fit in 8 bits".toList
  | endWithoutBlock => ".end without a corresponding function".toList
  | nested directive outer =>
    "Nested function definitions are not allowed (".toList ++ directive ++ " inside ".toList ++
      outer ++ [')']
  | duplicate directive => "Duplicate function: ".toList ++ directive
  | unterminated directive => "Function ".toList ++ directive ++ " is missing .end".toList

/-- The family of the diagnostic for a faulty line, if there is one: a numeral too long to be read
is a mishap. -/
def kind? : LineFault → Option Diagnostic.Kind
  | longNumeral _ => none
  | endWithoutBlock | nested .. | duplicate _ | unterminated _ => some .block
  | _ => some .parse

def report (f : LineFault) (line : Option Int) (text : Option Text) : Failure :=
  match f with
  | longNumeral digits => .mishap (.longNumeral digits)
  | f => .diagnostic ⟨f.kind?.getD .parse, f.detail, .source line text⟩

end LineFault

/-- A fault, and the line of source on which it lies. -/
structure AssemblyFault where
  fault : LineFault
  line : Nat
  text : Text
  deriving DecidableEq, Repr

def AssemblyFault.report (f : AssemblyFault) : Failure := f.fault.report (some f.line) (some f.text)

/-- How a source text is assembled: with a strict reading of operands, and with notes on the way. -/
structure AssemblyFlags where
  verbose : Bool := false
  strict : Bool := false
  deriving DecidableEq, Repr

/-- An instruction with the line it was read from, and the block it stands in. -/
structure SourceEntry where
  line : Nat
  block : Option Text
  instruction : Instruction
  deriving DecidableEq, Repr

namespace Assembly

/-- An assembly under way: what has been read, the block that is open and the instructions in it,
the lines of all instructions, and the notes. -/
structure Draft where
  instructions : Array Instruction := #[]
  blocks : List Block := []
  opened : Option Block := none
  body : Array Instruction := #[]
  entries : Array SourceEntry := #[]
  notes : Array Text := #[]
  deriving DecidableEq, Repr

/-- Note something if notes are asked for. -/
def Draft.note (d : Draft) (flags : AssemblyFlags) (text : Text) : Draft :=
  if flags.verbose then { d with notes := d.notes.push text } else d

def isDirective (token : Text) : Bool := token.head? == some '.'

def blockNote (b : Block) : Text :=
  "  Function '".toList ++ b.name ++ "': ".toList ++ Text.ofNat b.instructions.length ++
    " instructions".toList

def Draft.close (d : Draft) (flags : AssemblyFlags) : Draft × Option LineFault :=
  match d.opened with
  | none => (d, some .endWithoutBlock)
  | some b =>
    let b := { b with instructions := d.body.toList }
    (Draft.note { d with blocks := Program.define d.blocks b, opened := none, body := #[] } flags
      (blockNote b), none)

def Draft.openBlock (d : Draft) (line : Nat) (directive : Text) : Draft × Option LineFault :=
  match d.opened with
  | some b => (d, some (.nested directive b.directive))
  | none =>
    if d.blocks.any fun b => b.name == directive.tail then (d, some (.duplicate directive))
    else ({ d with opened := some ⟨directive.tail, directive, line, []⟩ }, none)

/-- Add an instruction to the open block, or to those to run. -/
def Draft.add (d : Draft) (line : Nat) (i : Instruction) : Draft :=
  match d.opened with
  | none =>
    { d with instructions := d.instructions.push i, entries := d.entries.push ⟨line, none, i⟩ }
  | some b =>
    { d with body := d.body.push i, entries := d.entries.push ⟨line, some b.name, i⟩ }

/-- Read one line's tokens. A faulty line changes nothing. -/
def Draft.line (d : Draft) (flags : AssemblyFlags) (n : Nat) (tokens : List Text) :
    Draft × Option LineFault :=
  match tokens with
  | [] => (d, none)
  | head :: _ =>
    if head = Block.endDirective then d.close flags
    else if isDirective head then d.openBlock n head
    else match Instruction.ofTokens flags.strict tokens with
      | .ok i => (d.add n i, none)
      | .error fault => (d, some fault)

/-- Read lines from the given number on, up to the first fault. -/
def Draft.lines (flags : AssemblyFlags) : Nat → List Text → Draft → Draft × Option AssemblyFault
  | _, [], d => (d, none)
  | n, text :: rest, d =>
    match d.line flags n (tokensOfLine text) with
    | (d, none) => Draft.lines flags (n + 1) rest d
    | (d, some fault) => (d, some ⟨fault, n, text⟩)

/-- The program of a draft, with the instruction that halts at its end. -/
def Draft.program (d : Draft) : Program := ⟨d.instructions.toList ++ [.halt], d.blocks⟩

def programNotes (p : Program) : List Text :=
  ["Global instructions: ".toList ++ Text.quotedList (p.instructions.map Instruction.shown),
    "Functions: ".toList ++ Text.quotedList (p.blocks.map Block.name)]

def tokensNote (source : Text) : Text :=
  "Tokenized lines: ".toList ++ Text.bracketed ((tokenLines source).map Text.quotedList)

end Assembly

/-- What comes of a source text: a program or the first fault, the lines of the instructions read up
to there, and the notes. -/
structure Assembly where
  result : Except AssemblyFault Program
  entries : List SourceEntry
  notes : List Text

/-- Assemble a source text. A block that is still open at its end is a fault on the line of its
directive. -/
def assemble (flags : AssemblyFlags) (source : Text) : Assembly :=
  let lines := source.lines
  let start := Assembly.Draft.note {} flags (Assembly.tokensNote source)
  let (d, fault) := Assembly.Draft.lines flags 0 lines start
  match fault, d.opened with
  | some f, _ => ⟨.error f, d.entries.toList, d.notes.toList⟩
  | none, some b =>
    ⟨.error ⟨.unterminated b.directive, b.line, lines[b.line]?.getD []⟩, d.entries.toList,
      d.notes.toList⟩
  | none, none =>
    let p := d.program
    ⟨.ok p, d.entries.toList,
      d.notes.toList ++ if flags.verbose then Assembly.programNotes p else []⟩

end LetterMachine
