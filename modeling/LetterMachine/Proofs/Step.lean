import LetterMachine.Machine.Step

/-!
What one step of a machine can do. `Performed` lists the ways in which an action ends and
`Stepped` the ways in which a step ends; `performed_perform` and `stepped_step` say that there are
no others, so that later proofs about machines are case splits over these two relations.
-/

namespace LetterMachine

/-- The result that an action stores in a register, as long as it fits there. -/
def Action.result? (m : Machine) : Action → Option (Register × Int)
  | .add dest src => some (dest, m.read dest + m.read src)
  | .sub dest src => some (dest, m.read dest - m.read src)
  | .mul dest src => some (dest, m.read dest * m.read src)
  | .div dest src =>
      if m.read src = 0 then none else some (dest, (m.read dest).fdiv (m.read src))
  | .load dest value => some (dest, value)
  | .copy dest src => some (dest, m.read src)
  | .clear dest => some (dest, 0)
  | .decrement dest => some (dest, m.read dest - 1)
  | .increment dest => some (dest, m.read dest + 1)
  | .power dest exponent => some (dest, Machine.power (m.read dest) exponent.toNat)
  | .swap .. | .compare .. | .print _ | .jump _ | .halt => none

section Running

variable {σ ε ε' α β : Type}

theorem run_bind (x : ExceptT ε (StateM σ) α) (f : α → ExceptT ε (StateM σ) β) (s : σ) :
    (x >>= f).run.run s =
      match x.run.run s with
      | (.ok a, s') => (f a).run.run s'
      | (.error e, s') => (.error e, s') := by
  change (match x.run.run s with | (r, s') => (ExceptT.bindCont f r).run s') = _
  rcases x.run.run s with ⟨_ | _, _⟩ <;> rfl

theorem run_adapt (x : ExceptT ε (StateM σ) α) (f : ε → ε') (s : σ) :
    (x.adapt f).run.run s = ((x.run.run s).1.mapError f, (x.run.run s).2) := rfl

end Running

namespace Machine

/-- The machine after it has put out a line. -/
def say (line : Text) (m : Machine) : Machine :=
  { m with output := m.output.push line, feed := m.feed.push (.output line) }

/-- The ways in which an action ends: with what it returns or why it fails, and the machine
afterwards. -/
inductive Performed (m : Machine) : Action → Except FaultCause (Option Int) → Machine → Prop
  | negative {a : Action} {dest : Register} {value : Int}
      (hresult : a.result? m = some (dest, value)) (hvalue : value < 0) :
      Performed m a (.error .negativeResult) m
  | overflow {a : Action} {dest : Register} {value : Int}
      (hresult : a.result? m = some (dest, value)) (hvalue : Register.maxValue < value) :
      Performed m a (.error (.overflow value)) m
  | divisionByZero {dest src : Register} (hzero : m.read src = 0) :
      Performed m (.div dest src) (.error .divisionByZero) m
  | stored {a : Action} {dest : Register} {value : Int}
      (hresult : a.result? m = some (dest, value)) (hlow : 0 ≤ value)
      (hhigh : value ≤ Register.maxValue) :
      Performed m a (.ok none) (m.write dest value)
  | swap (left right : Register) :
      Performed m (.swap left right) (.ok none)
        ((m.write left (m.read right)).write right (m.read left))
  | compare (left right : Register) :
      Performed m (.compare left right) (.ok none)
        (say (comparisonLine left right (Ord.compare (m.read left) (m.read right)))
          { m with comparison := some (Ord.compare (m.read left) (m.read right)) })
  | print (r : Register) :
      Performed m (.print r) (.ok none) (say (registerLine r (m.read r)) m)
  | jump (target : Int) : Performed m (.jump target) (.ok (some target)) m
  | halt : Performed m .halt (.ok none) { m with halted := true }

theorem run_store (m : Machine) (dest : Register) (value : Int) :
    (do store dest value; return none : Performing (Option Int)).run.run m =
      if value < 0 then (.error .negativeResult, m)
      else if (Register.maxValue : Int) < value then (.error (.overflow value), m)
      else (.ok none, m.write dest value) := by
  unfold store
  split
  · rfl
  · split <;> rfl

theorem run_perform_div (m : Machine) (dest src : Register) :
    (perform (.div dest src)).run.run m =
      if m.read src = 0 then (.error .divisionByZero, m)
      else (do store dest ((m.read dest).fdiv (m.read src)); return none :
        Performing (Option Int)).run.run m := by
  change (do
    if m.read src = 0 then throw .divisionByZero
    store dest ((m.read dest).fdiv (m.read src))
    return none : Performing (Option Int)).run.run m = _
  split <;> rfl

theorem run_perform_of_result {m : Machine} {a : Action} {dest : Register} {value : Int}
    (hresult : a.result? m = some (dest, value)) :
    (perform a).run.run m =
      (do store dest value; return none : Performing (Option Int)).run.run m := by
  cases a with
  | div left right =>
      simp only [Action.result?] at hresult
      split at hresult
      · cases hresult
      · rename_i hzero
        cases hresult
        rw [run_perform_div, if_neg hzero]
  | swap | compare | print | jump | halt => cases hresult
  | _ =>
      cases hresult
      rfl

theorem performed_of_result {m : Machine} {a : Action} {dest : Register} {value : Int}
    (hresult : a.result? m = some (dest, value)) :
    Performed m a ((perform a).run.run m).1 ((perform a).run.run m).2 := by
  rw [run_perform_of_result hresult, run_store]
  split
  · rename_i hlow
    exact .negative hresult hlow
  · rename_i hlow
    split
    · rename_i hhigh
      exact .overflow hresult hhigh
    · rename_i hhigh
      exact .stored hresult (Int.not_lt.mp hlow) (Int.not_lt.mp hhigh)

theorem performed_perform (m : Machine) (a : Action) :
    Performed m a ((perform a).run.run m).1 ((perform a).run.run m).2 := by
  cases a with
  | div dest src =>
      by_cases hzero : m.read src = 0
      · rw [run_perform_div, if_pos hzero]
        exact .divisionByZero hzero
      · exact performed_of_result (if_neg hzero)
  | swap left right => exact .swap left right
  | compare left right => exact .compare left right
  | print r => exact .print r
  | jump target => exact .jump target
  | halt => exact .halt
  | _ => exact performed_of_result rfl

theorem Performed.run_eq {m m' : Machine} {a : Action} {result : Except FaultCause (Option Int)}
    (h : Performed m a result m') : (perform a).run.run m = (result, m') := by
  cases h with
  | negative hresult hvalue => rw [run_perform_of_result hresult, run_store, if_pos hvalue]
  | overflow hresult hvalue =>
      rw [run_perform_of_result hresult, run_store, if_neg (by omega), if_pos hvalue]
  | divisionByZero hzero => rw [run_perform_div, if_pos hzero]
  | stored hresult hlow hhigh =>
      rw [run_perform_of_result hresult, run_store, if_neg (Int.not_lt.mpr hlow),
        if_neg (Int.not_lt.mpr hhigh)]
  | swap left right => rfl
  | compare left right => rfl
  | print r => rfl
  | jump target => rfl
  | halt => rfl

/-- The machine with one more line in its trace, if it has a trace. -/
def noted (verbose : Bool) (line : Text) (m : Machine) : Machine :=
  if verbose then { m with feed := m.feed.push (.trace line) } else m

theorem run_trace (verbose : Bool) (line : Text) (m : Machine) :
    (trace verbose line).run.run m = (.ok (), m.noted verbose line) := by
  unfold trace noted
  split <;> rfl

section Noted

variable (verbose : Bool) (line : Text) (m : Machine)

@[simp] theorem noted_registers : (m.noted verbose line).registers = m.registers := by
  cases verbose <;> rfl

@[simp] theorem noted_read (r : Register) : (m.noted verbose line).read r = m.read r := by
  cases verbose <;> rfl

@[simp] theorem noted_ip : (m.noted verbose line).ip = m.ip := by
  cases verbose <;> rfl

@[simp] theorem noted_halted : (m.noted verbose line).halted = m.halted := by
  cases verbose <;> rfl

@[simp] theorem noted_comparison : (m.noted verbose line).comparison = m.comparison := by
  cases verbose <;> rfl

@[simp] theorem noted_output : (m.noted verbose line).output = m.output := by
  cases verbose <;> rfl

@[simp] theorem noted_steps : (m.noted verbose line).steps = m.steps := by
  cases verbose <;> rfl

@[simp] theorem noted_emitted : (m.noted verbose line).emitted = m.emitted := by
  cases verbose with
  | false => rfl
  | true => simp [noted, emitted, Event.output?]

end Noted

/-- A machine that is about to perform the action of an instruction. -/
structure Ready (code : List Instruction) (m : Machine) (i : Instruction) (a : Action) : Prop where
  running : m.halted = false
  fetched : fetch code m.ip = some i
  checked : Action.ofInstruction code.length i = .ok a
  showable : i.operands.any Text.tooManyDigits = false

/-- The ways in which a step ends. -/
inductive Stepped (code : List Instruction) (verbose : Bool) (m : Machine) :
    Except RunFault Unit → Machine → Prop
  | halted (hhalted : m.halted = true) : Stepped code verbose m (.error .halted) m
  | ipOutside (hrunning : m.halted = false) (hfetch : fetch code m.ip = none) :
      Stepped code verbose m (.error (.ipOutside m.ip)) m
  | operand {i : Instruction} {cause : FaultCause} (hrunning : m.halted = false)
      (hfetch : fetch code m.ip = some i)
      (hcheck : Action.ofInstruction code.length i = .error cause) :
      Stepped code verbose m (.error (.failed m.ip i cause)) m
  | unshowable {i : Instruction} {a : Action} (hrunning : m.halted = false)
      (hfetch : fetch code m.ip = some i)
      (hcheck : Action.ofInstruction code.length i = .ok a)
      (hlong : i.operands.any Text.tooManyDigits = true) :
      Stepped code verbose m (.error (.unshowable i)) m
  | failed {i : Instruction} {a : Action} {cause : FaultCause} {m' : Machine}
      (hready : Ready code m i a)
      (hperform : Performed (m.noted verbose (traceLine m.ip i)) a (.error cause) m') :
      Stepped code verbose m (.error (.failed m.ip i cause)) m'
  | done {i : Instruction} {a : Action} {next : Option Int} {m' : Machine}
      (hready : Ready code m i a)
      (hperform : Performed (m.noted verbose (traceLine m.ip i)) a (.ok next) m') :
      Stepped code verbose m (.ok ())
        { m' with steps := m'.steps + 1, ip := next.getD (m'.ip + 1) }

theorem run_step (code : List Instruction) (verbose : Bool) (m : Machine) :
    (step code verbose).run.run m =
      if m.halted then (.error .halted, m)
      else
        match fetch code m.ip with
        | none => (.error (.ipOutside m.ip), m)
        | some i =>
          match Action.ofInstruction code.length i with
          | .error cause => (.error (.failed m.ip i cause), m)
          | .ok a =>
            if i.operands.any Text.tooManyDigits then (.error (.unshowable i), m)
            else
              match (perform a).run.run (m.noted verbose (traceLine m.ip i)) with
              | (.ok next, m') =>
                (.ok (), { m' with steps := m'.steps + 1, ip := next.getD (m'.ip + 1) })
              | (.error cause, m') => (.error (.failed m.ip i cause), m') := by
  change (if m.halted then throw .halted
    else
      match fetch code m.ip with
      | none => throw (.ipOutside m.ip)
      | some i =>
        match Action.ofInstruction code.length i with
        | .error cause => throw (.failed m.ip i cause)
        | .ok a => do
          if i.operands.any Text.tooManyDigits then throw (.unshowable i)
          trace verbose (traceLine m.ip i)
          let next ← (perform a).adapt (RunFault.failed m.ip i)
          modify fun m => { m with steps := m.steps + 1, ip := next.getD (m.ip + 1) } :
      Running Unit).run.run m = _
  split
  · rfl
  · split
    · rfl
    · rename_i i _
      split
      · rfl
      · rename_i a _
        split
        · rfl
        · change ((trace verbose (traceLine m.ip i)) >>= fun _ =>
            (perform a).adapt (RunFault.failed m.ip i) >>= fun next =>
              (modify fun m => { m with steps := m.steps + 1, ip := next.getD (m.ip + 1) } :
                Running Unit)).run.run m = _
          rw [run_bind, run_trace]
          dsimp only
          rw [run_bind, run_adapt]
          rcases (perform a).run.run (m.noted verbose (traceLine m.ip i)) with ⟨_ | _, _⟩ <;> rfl

theorem stepped_step (code : List Instruction) (verbose : Bool) (m : Machine) :
    Stepped code verbose m ((step code verbose).run.run m).1 ((step code verbose).run.run m).2 := by
  rw [run_step]
  cases hhalted : m.halted with
  | true => exact .halted hhalted
  | false =>
      cases hfetch : fetch code m.ip with
      | none => exact .ipOutside hhalted hfetch
      | some i =>
          cases hcheck : Action.ofInstruction code.length i with
          | error cause => simpa [hcheck] using .operand hhalted hfetch hcheck
          | ok a =>
              cases hlong : i.operands.any Text.tooManyDigits with
              | true => simpa [hcheck, hlong] using .unshowable hhalted hfetch hcheck hlong
              | false =>
                  have hready : Ready code m i a := ⟨hhalted, hfetch, hcheck, hlong⟩
                  have hperform := performed_perform (m.noted verbose (traceLine m.ip i)) a
                  simp only [hcheck, hlong]
                  rcases hrun : (perform a).run.run (m.noted verbose (traceLine m.ip i)) with
                    ⟨cause | next, m'⟩
                  · rw [hrun] at hperform
                    exact .failed hready hperform
                  · rw [hrun] at hperform
                    exact .done hready hperform

theorem Stepped.run_eq {code : List Instruction} {verbose : Bool} {m m' : Machine}
    {result : Except RunFault Unit} (h : Stepped code verbose m result m') :
    (step code verbose).run.run m = (result, m') := by
  rw [run_step]
  cases h with
  | halted hhalted => rw [if_pos hhalted]
  | ipOutside hrunning hfetch => simp only [hrunning, hfetch, Bool.false_eq_true, if_false]
  | operand hrunning hfetch hcheck =>
      simp only [hrunning, hfetch, hcheck, Bool.false_eq_true, if_false]
  | unshowable hrunning hfetch hcheck hlong =>
      simp only [hrunning, hfetch, hcheck, hlong, Bool.false_eq_true, if_false, if_true]
  | failed hready hperform =>
      simp only [hready.running, hready.fetched, hready.checked, hready.showable, hperform.run_eq,
        Bool.false_eq_true, if_false]
  | done hready hperform =>
      simp only [hready.running, hready.fetched, hready.checked, hready.showable, hperform.run_eq,
        Bool.false_eq_true, if_false]

theorem stepped_of_run {code : List Instruction} {verbose : Bool} {m m' : Machine}
    {result : Except RunFault Unit} (h : (step code verbose).run.run m = (result, m')) :
    Stepped code verbose m result m' := by
  simpa only [h] using stepped_step code verbose m

end Machine

end LetterMachine
