import LetterMachine.Machine.Step

/-!
Runs of a machine: steps until it halts, fails or has made as many as it may.
-/

namespace LetterMachine

/-- How a run ends. -/
inductive Ending where
  | halted
  | failed (fault : RunFault)
  /-- The run has no limit and does not end. -/
  | endless
  deriving DecidableEq, Repr

namespace Machine

/-- Make steps until the machine has halted or fails, and at most as many as given. The ending is
none if the machine could go on. -/
def advance (code : List Instruction) (verbose : Bool) : Nat → Machine → Option Ending × Machine
  | 0, m => (if m.halted then some .halted else none, m)
  | n + 1, m =>
    if m.halted then (some .halted, m)
    else
      match (step code verbose).run.run m with
      | (.ok _, m') => advance code verbose n m'
      | (.error fault, m') => (some (.failed fault), m')

/-- The line of the trace at the end of a run. -/
def haltLine (m : Machine) : Text :=
  "Halted after ".toList ++ Text.ofNat m.steps ++ " steps".toList

/-- The number of values that a register can hold during a run: those that are stored, and those
that the registers hold at its start. -/
def valueCount : Nat := Register.maxValue + 1 + 26

/-- The most steps that a run may make. A run without a limit that has made more steps than there
are indices and contents of the registers has been in one state twice, so that it does not end. -/
def allowance (code : List Instruction) (limit : Option Int) (m : Machine) : Nat :=
  match limit with
  | some most => (most - m.steps).toNat
  | none => code.length * Nat.pow valueCount 26 + 1

/-- Run the machine. The limit counts all steps since the machine was new. -/
def run (code : List Instruction) (verbose : Bool) (limit : Option Int) (m : Machine) :
    Ending × Machine :=
  match advance code verbose (allowance code limit m) m with
  | (some .halted, m') =>
    (.halted, if verbose then { m' with feed := m'.feed.push (.trace m'.haltLine) } else m')
  | (some ending, m') => (ending, m')
  | (none, m') =>
    match limit with
    | some most => (.failed (.stepLimit most m'.ip), m')
    | none => (.endless, m')

end Machine

end LetterMachine
