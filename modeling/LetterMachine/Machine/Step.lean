import LetterMachine.Machine.Action
import LetterMachine.Machine.State
import LetterMachine.Report

/-!
One step of a machine: it fetches an instruction, checks its operands, and performs it.
-/

namespace LetterMachine

inductive RunFault where
  /-- The machine has halted. -/
  | halted
  /-- The index of the next instruction lies outside the program. -/
  | ipOutside (ip : Int)
  /-- The limit of steps is reached. -/
  | stepLimit (limit ip : Int)
  /-- An instruction whose operands are right cannot be shown. -/
  | unshowable (instruction : Instruction)
  /-- An instruction fails. -/
  | failed (ip : Int) (instruction : Instruction) (cause : FaultCause)
  deriving DecidableEq, Repr

namespace FaultCause

def detail (i : Instruction) : FaultCause → Text
  | invalidRegister n => "Invalid register: ".toList ++ Text.ofInt n
  | targetOutside n => "Jump target ".toList ++ Text.ofInt n ++ " is outside the program".toList
  | negativeResult => i.line ++ " will result in negative number".toList
  | divisionByZero => "Division by zero".toList
  | overflow value =>
    i.line ++ " will overflow 16 bits (".toList ++ Text.ofInt value ++ [')']

/-- The numbers in what is said, apart from those of the instruction. -/
def numbers : FaultCause → List Int
  | invalidRegister n | targetOutside n | overflow n => [n]
  | negativeResult | divisionByZero => []

def kind : FaultCause → Diagnostic.Kind
  | invalidRegister _ | targetOutside _ => .execution
  | negativeResult => .negativeResult
  | divisionByZero => .divisionByZero
  | overflow _ => .overflow

end FaultCause

namespace RunFault

/-- The numbers that the report of a fault shows, apart from the index of an instruction. -/
def numbers : RunFault → List Int
  | halted => []
  | ipOutside ip => [ip]
  | stepLimit limit ip => [limit, ip]
  | unshowable i => i.operands
  | failed _ i cause => i.operands ++ cause.numbers

/-- The report of a fault. A fault whose report would show a number with more digits than are
written is a mishap, and so is an instruction that cannot be shown. -/
def report (f : RunFault) : Failure :=
  if f.numbers.any Text.tooManyDigits then .mishap .longNumber
  else
    match f with
    | halted => .diagnostic ⟨.execution, "Machine is halted".toList, .program none none⟩
    | ipOutside ip =>
      .diagnostic ⟨.execution,
        "Instruction pointer ".toList ++ Text.ofInt ip ++ " is outside the program".toList,
        .program none none⟩
    | stepLimit limit ip =>
      .diagnostic ⟨.execution,
        "Step limit of ".toList ++ Text.ofInt limit ++ " reached without HALT (ip ".toList ++
          Text.ofInt ip ++ [')'],
        .program none none⟩
    | unshowable _ => .mishap .longNumber
    | failed ip i cause =>
      .diagnostic ⟨cause.kind, cause.detail i, .program (some ip) (some i.shown)⟩

end RunFault

namespace Machine

/-- A power with a natural exponent. The powers of zero and of one need no multiplication. -/
def power (base : Int) (exponent : Nat) : Int :=
  if base = 0 ∨ base = 1 then if exponent = 0 then 1 else base else Int.pow base exponent

theorem power_eq (base : Int) (exponent : Nat) : power base exponent = Int.pow base exponent := by
  unfold power
  split
  · rename_i h
    split
    · subst exponent
      exact (Int.pow_zero base).symm
    · rename_i he
      rcases h with rfl | rfl
      · exact (Int.zero_pow he).symm
      · exact (Int.one_pow).symm
  · rfl

/-- An action that may fail with the machine as it then is. -/
abbrev Performing := ExceptT FaultCause (StateM Machine)

def store (dest : Register) (value : Int) : Performing Unit :=
  if value < 0 then throw .negativeResult
  else if (Register.maxValue : Int) < value then throw (.overflow value)
  else modify fun m => m.write dest value

def emit (line : Text) : Performing Unit :=
  modify fun m =>
    { m with output := m.output.push line, feed := m.feed.push (.output line) }

def comparisonLine (left right : Register) (o : Ordering) : Text :=
  "CMP ".toList ++ left.letter :: ' ' :: right.letter :: ':' :: ' ' :: verdict o

def registerLine (r : Register) (value : Int) : Text :=
  r.letter :: ':' :: ' ' :: Text.ofInt value

/-- Perform an action. The result is the index to go on at, if that is not the next one. -/
def perform : Action → Performing (Option Int)
  | .add dest src => do
    let m ← get
    store dest (m.read dest + m.read src)
    return none
  | .sub dest src => do
    let m ← get
    store dest (m.read dest - m.read src)
    return none
  | .mul dest src => do
    let m ← get
    store dest (m.read dest * m.read src)
    return none
  | .div dest src => do
    let m ← get
    if m.read src = 0 then throw .divisionByZero
    store dest ((m.read dest).fdiv (m.read src))
    return none
  | .load dest value => do
    store dest value
    return none
  | .copy dest src => do
    let m ← get
    store dest (m.read src)
    return none
  | .swap left right => do
    modify fun m => (m.write left (m.read right)).write right (m.read left)
    return none
  | .clear dest => do
    store dest 0
    return none
  | .decrement dest => do
    let m ← get
    store dest (m.read dest - 1)
    return none
  | .increment dest => do
    let m ← get
    store dest (m.read dest + 1)
    return none
  | .compare left right => do
    let m ← get
    let o := Ord.compare (m.read left) (m.read right)
    modify fun m => { m with comparison := some o }
    emit (comparisonLine left right o)
    return none
  | .power dest exponent => do
    let m ← get
    store dest (power (m.read dest) exponent.toNat)
    return none
  | .print r => do
    let m ← get
    emit (registerLine r (m.read r))
    return none
  | .jump target => return some target
  | .halt => do
    modify fun m => { m with halted := true }
    return none

/-- A machine that may stop with a fault. -/
abbrev Running := ExceptT RunFault (StateM Machine)

/-- Add a line to the trace if there is one. -/
def trace (verbose : Bool) (line : Text) : Running Unit :=
  if verbose then modify fun m => { m with feed := m.feed.push (.trace line) } else pure ()

def fetch (code : List Instruction) (ip : Int) : Option Instruction :=
  if 0 ≤ ip then code[ip.toNat]? else none

def traceLine (ip : Int) (i : Instruction) : Text :=
  "  [".toList ++ Text.padLeft 4 (Text.ofInt ip) ++ "] ".toList ++ i.shown

/-- Execute one instruction. Once its operands are known to be right it is shown, if only to the
trace, so that it must be one that can be shown. -/
def step (code : List Instruction) (verbose : Bool) : Running Unit := do
  let m ← get
  if m.halted then throw .halted
  match fetch code m.ip with
  | none => throw (.ipOutside m.ip)
  | some i =>
    match Action.ofInstruction code.length i with
    | .error cause => throw (.failed m.ip i cause)
    | .ok action =>
      if i.operands.any Text.tooManyDigits then throw (.unshowable i)
      trace verbose (traceLine m.ip i)
      let next ← (perform action).adapt (RunFault.failed m.ip i)
      modify fun m => { m with steps := m.steps + 1, ip := next.getD (m.ip + 1) }

end Machine

end LetterMachine
