import LetterMachine.Proofs.Trail

namespace LetterMachine

/-- What a machine can be asked to do. -/
inductive Call where
  | step
  /-- Run, with at most the given number of steps since the machine was new. -/
  | run (limit : Option Int)
  deriving DecidableEq, Repr

namespace Machine

/-- Answer a call. The ending is none after a step that succeeds. -/
def answer (code : List Instruction) (verbose : Bool) : Call → Machine → Option Ending × Machine
  | .step, m =>
    match (Machine.step code verbose).run.run m with
    | (.ok _, m') => (none, m')
    | (.error fault, m') => (some (.failed fault), m')
  | .run limit, m =>
    let (ending, m') := run code verbose limit m
    (some ending, m')

/-- The machine after a sequence of calls. -/
def afterCalls (code : List Instruction) (verbose : Bool) (calls : List Call) (m : Machine) :
    Machine :=
  calls.foldl (fun m call => (answer code verbose call m).2) m

theorem afterCalls_cons (code : List Instruction) (verbose : Bool) (call : Call)
    (calls : List Call) (m : Machine) :
    afterCalls code verbose (call :: calls) m =
      afterCalls code verbose calls (answer code verbose call m).2 := rfl

/-- The endings of a sequence of calls. -/
def answers (code : List Instruction) (verbose : Bool) : List Call → Machine → List (Option Ending)
  | [], _ => []
  | call :: calls, m =>
    (answer code verbose call m).1 :: answers code verbose calls (answer code verbose call m).2

theorem answer_step (code : List Instruction) (verbose : Bool) (m : Machine) :
    (answer code verbose .step m).2 = ((step code verbose).run.run m).2 := by
  change (match (step code verbose).run.run m with
    | (.ok _, m') => ((none : Option Ending), m')
    | (.error fault, m') => (some (.failed fault), m')).2 = _
  rcases (step code verbose).run.run m with ⟨_ | _, _⟩ <;> rfl

theorem answer_run (code : List Instruction) (verbose : Bool) (limit : Option Int) (m : Machine) :
    answer code verbose (.run limit) m =
      (some (run code verbose limit m).1, (run code verbose limit m).2) := rfl

/-- A property that no step and no line of the trace can break. -/
structure Kept (code : List Instruction) (verbose : Bool) (P : Machine → Prop) : Prop where
  step : ∀ {m m' : Machine} {result : Except RunFault Unit},
    P m → Stepped code verbose m result m' → P m'
  noted : ∀ {m : Machine} (line : Text), P m → P (m.noted verbose line)

variable {code : List Instruction} {verbose : Bool} {P : Machine → Prop}

theorem Kept.trail (hkept : Kept code verbose P) {m m' : Machine} {indices : List Int}
    (htrail : Trail code verbose m indices m') (hm : P m) : P m' :=
  htrail.invariant (fun _ _ h hstep => hkept.step h (stepped_of_run hstep)) hm

theorem Kept.run (hkept : Kept code verbose P) (limit : Option Int) {m : Machine} (hm : P m) :
    P (run code verbose limit m).2 := by
  have hran := ran_run code verbose limit m
  generalize Machine.run code verbose limit m = result at hran ⊢
  rcases result with ⟨ending, m'⟩
  dsimp only at hran ⊢
  cases hran with
  | halted htrail _ _ => exact hkept.noted _ (hkept.trail htrail hm)
  | failed htrail _ _ hstep => exact hkept.step (hkept.trail htrail hm) (stepped_of_run hstep)
  | stepLimit _ htrail _ _ => exact hkept.trail htrail hm
  | endless _ htrail _ _ => exact hkept.trail htrail hm

theorem Kept.answer (hkept : Kept code verbose P) (call : Call) {m : Machine} (hm : P m) :
    P (answer code verbose call m).2 := by
  cases call with
  | step =>
      rw [answer_step]
      exact hkept.step hm (stepped_step code verbose m)
  | run limit =>
      rw [answer_run]
      exact hkept.run limit hm

theorem Kept.afterCalls (hkept : Kept code verbose P) (calls : List Call) {m : Machine}
    (hm : P m) : P (afterCalls code verbose calls m) := by
  induction calls generalizing m with
  | nil => exact hm
  | cons call calls ih => exact ih (hkept.answer call hm)

end Machine

end LetterMachine
