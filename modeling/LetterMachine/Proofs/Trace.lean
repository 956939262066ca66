import LetterMachine.Proofs.Agreement
import LetterMachine.Proofs.Cause
import LetterMachine.Proofs.Quiet

namespace LetterMachine.Machine

variable {code : List Instruction} {m m' : Machine}

theorem Quiet.traced (h : Quiet m) : m.traced = [] := by
  rw [Machine.traced, h, List.filterMap_map]
  exact List.filterMap_eq_nil_iff.mpr fun _ _ => rfl

@[simp]
theorem traced_noted (line : Text) (m : Machine) :
    (m.noted true line).traced = m.traced ++ [line] := by
  simp [noted, traced, Event.trace?]

theorem Performed.traced_eq {action : Action} {result : Except FaultCause (Option Int)}
    (h : Performed m action result m') : m'.traced = m.traced := by
  cases h with
  | compare | print => simp [say, traced, Event.trace?]
  | negative | overflow | divisionByZero | stored | swap | jump | halt => rfl

/-- The line of an instruction that is executed: its index and the instruction. -/
def lineOf (step : Int × Instruction) : Text :=
  "  [".toList ++ List.leftpad 4 ' ' (Text.ofInt step.1) ++ "] ".toList ++ step.2.shown

theorem traced_of_step (hstep : (step code true).run.run m = (.ok (), m')) :
    ∃ i, fetch code m.ip = some i ∧ m'.traced = m.traced ++ [lineOf (m.ip, i)] := by
  cases stepped_of_run hstep with
  | @done i action next m₁ hready hperform =>
      refine ⟨i, hready.fetched, ?_⟩
      have htraced := hperform.traced_eq
      rw [traced_noted] at htraced
      exact htraced

/-- The instructions that lead from one machine to another, each with the index at which it was
executed. -/
structure Executes (code : List Instruction) (m : Machine) (executed : List (Int × Instruction))
    (m' : Machine) : Prop where
  trail : Trail code true m (executed.map Prod.fst) m'
  fetched : ∀ step ∈ executed, fetch code step.1 = some step.2

theorem Executes.steps_eq {executed : List (Int × Instruction)} (h : Executes code {} executed m) :
    m.steps = executed.length := by
  rw [h.trail.steps_eq, List.length_map]
  exact Nat.zero_add _

theorem Trail.traced {indices : List Int} (htrail : Trail code true m indices m') :
    ∃ executed, Executes code m executed m' ∧ m'.traced = m.traced ++ executed.map lineOf := by
  induction htrail with
  | nil m => exact ⟨[], ⟨.nil m, nofun⟩, (List.append_nil _).symm⟩
  | @cons m m₁ m' indices hstep _ ih =>
      obtain ⟨i, hfetch, hline⟩ := traced_of_step hstep
      obtain ⟨executed, hexecutes, hlines⟩ := ih
      refine ⟨(m.ip, i) :: executed, ⟨.cons hstep hexecutes.trail, ?_⟩, ?_⟩
      · exact List.forall_mem_cons.mpr ⟨hfetch, hexecutes.fetched⟩
      · rw [hlines, hline, List.append_assoc, List.singleton_append, List.map_cons]

/-- What a run adds to the trace after the steps that it has made: their number if it returns, the
instruction that fails if its operands are accepted, and nothing in any other case. -/
inductive Closing (code : List Instruction) (m : Machine) (steps : Nat) :
    Ending → List Text → Prop
  | halted (hhalted : m.halted = true) :
      Closing code m steps .halted ["Halted after ".toList ++ Text.ofNat steps ++ " steps".toList]
  | refused {i : Instruction} {cause : FaultCause} (hfetch : fetch code m.ip = some i)
      (hcheck : Action.ofInstruction code.length i = .error cause) :
      Closing code m steps (.failed (.failed m.ip i cause)) []
  | failed {i : Instruction} {action : Action} {cause : FaultCause}
      (hfetch : fetch code m.ip = some i)
      (hcheck : Action.ofInstruction code.length i = .ok action) :
      Closing code m steps (.failed (.failed m.ip i cause)) [lineOf (m.ip, i)]
  | stepLimit {most : Int} (hsteps : most ≤ steps) :
      Closing code m steps (.failed (.stepLimit most m.ip)) []
  | endless : Closing code m steps .endless []

theorem lineOf_ne_halted (step : Int × Instruction) (t : Text) :
    lineOf step ≠ "Halted after ".toList ++ t := by
  intro h
  have hhead := congrArg List.head? h
  have hblank : (lineOf step).head? = some ' ' := rfl
  have hletter : ("Halted after ".toList ++ t).head? = some 'H' := rfl
  rw [hblank, hletter] at hhead
  exact absurd hhead (by decide)

theorem Closing.eq_halted_iff {steps : Nat} {ending : Ending} {closing : List Text}
    (h : Closing code m steps ending closing) :
    closing = ["Halted after ".toList ++ Text.ofNat steps ++ " steps".toList] ↔
      ending = .halted := by
  cases h with
  | halted => exact iff_of_true rfl rfl
  | failed =>
      refine iff_of_false ?_ nofun
      rw [List.singleton_inj, List.append_assoc]
      exact lineOf_ne_halted _ _
  | refused | stepLimit | endless => exact iff_of_false nofun nofun

theorem Stepped.closing {ip : Int} {i : Instruction} {cause : FaultCause}
    (h : Stepped code true m (.error (.failed ip i cause)) m') (steps : Nat) :
    ∃ closing, Closing code m steps (.failed (.failed ip i cause)) closing ∧
      m'.traced = m.traced ++ closing := by
  cases h with
  | operand _ hfetch hcheck => exact ⟨[], .refused hfetch hcheck, (List.append_nil _).symm⟩
  | failed hready hperform =>
      refine ⟨_, .failed hready.fetched hready.checked, ?_⟩
      rw [hperform.traced_eq, traced_noted]
      rfl

/-- On canonical code that ends with a halting instruction a run of a new machine closes its
trace. -/
theorem exists_closing (hcode : ∀ i ∈ code, i.Canonical) (hlast : code.getLast? = some .halt)
    (limit : Option Int) :
    ∃ executed m₁ closing, Executes code {} executed m₁ ∧ Agrees m₁ (run code true limit {}).2 ∧
      Closing code m₁ executed.length (run code true limit {}).1 closing ∧
      (run code true limit {}).2.traced = executed.map lineOf ++ closing := by
  rcases hrun : run code true limit {} with ⟨ending, m'⟩
  cases ran_of_run hrun with
  | @halted _ m₁ htrail _ hhalted =>
      obtain ⟨executed, hexecutes, hlines⟩ := htrail.traced
      have hline : m₁.haltLine =
          "Halted after ".toList ++ Text.ofNat executed.length ++ " steps".toList := by
        rw [← hexecutes.steps_eq]
        rfl
      refine ⟨executed, m₁, _, hexecutes, agrees_noted m₁ true _, .halted hhalted, ?_⟩
      rw [traced_noted, hlines, hline]
      rfl
  | @failed _ m₁ _ fault htrail _ hrunning hstep =>
      have hstepped := stepped_of_run hstep
      have hinside := (kept_inside hlast true).trail htrail (inside_new hlast)
      have hrange := (kept_inRange code true).trail htrail inRange_new
      obtain ⟨executed, hexecutes, hlines⟩ := htrail.traced
      obtain ⟨i, hfetch⟩ := hinside.exists_fetch hrunning
      obtain ⟨cause, rfl, -⟩ :=
        hstepped.report hrunning hrange hfetch (hcode i (mem_of_fetch hfetch))
      obtain ⟨closing, hclosing, hline⟩ := hstepped.closing executed.length
      refine ⟨executed, m₁, closing, hexecutes, hstepped.agrees_of_error, hclosing, ?_⟩
      rw [hline, hlines]
      rfl
  | @stepLimit most _ _ _ htrail hlength _ =>
      obtain ⟨executed, hexecutes, hlines⟩ := htrail.traced
      have hsteps : most ≤ executed.length := by
        rw [← hexecutes.steps_eq, htrail.steps_eq]
        omega
      refine ⟨executed, m', [], hexecutes, .refl m', .stepLimit hsteps, ?_⟩
      rw [hlines, List.append_nil]
      rfl
  | endless _ htrail _ _ =>
      obtain ⟨executed, hexecutes, hlines⟩ := htrail.traced
      refine ⟨executed, m', [], hexecutes, .refl m', .endless, ?_⟩
      rw [hlines, List.append_nil]
      rfl

/-- A run of an assembled program ends in the same way and in the same state whether the machine
keeps a trace or not. Without one nothing is traced; otherwise the trace shows the instructions that
were executed, and is closed as the run ends. -/
theorem run_traced {flags : AssemblyFlags} {source : Text} {p : Program}
    (h : (assemble flags source).result = .ok p) (limit : Option Int) :
    let loud := run p.instructions true limit {}
    let quiet := run p.instructions false limit {}
    loud.1 = quiet.1 ∧ Agrees quiet.2 loud.2 ∧ quiet.2.traced = [] ∧
      ∃ executed m closing, Executes p.instructions {} executed m ∧ Agrees m loud.2 ∧
        m.steps = executed.length ∧
        Closing p.instructions m executed.length loud.1 closing ∧
        loud.2.traced = executed.map lineOf ++ closing ∧
        (closing = ["Halted after ".toList ++ Text.ofNat executed.length ++ " steps".toList] ↔
          loud.1 = .halted) := by
  intro loud quiet
  have hp := Program.wellFormed_of_assemble h
  obtain ⟨hending, hagrees⟩ := (Agrees.refl {}).run p.instructions false true limit
  have hquiet : Quiet quiet.2 := (kept_quiet p.instructions).run limit rfl
  obtain ⟨executed, m, closing, hexecutes, hm, hclosing, hlines⟩ :=
    exists_closing hp.canonical hp.getLast limit
  exact ⟨hending, hagrees, hquiet.traced, executed, m, closing, hexecutes, hm, hexecutes.steps_eq,
    hclosing, hlines, hclosing.eq_halted_iff⟩

theorem run_traced_print_division :
    let p : Program := ⟨[⟨.print, 0, 0⟩, .halt], []⟩
    let q : Program := ⟨[⟨.print, 0, 0⟩, ⟨.div, 0, 1⟩, .halt], []⟩
    let loud (p : Program) := run p.instructions true none {}
    (assemble {} "print a".toList).result = .ok p ∧
      (∃ executed m closing, Executes p.instructions {} executed m ∧
        Closing p.instructions m executed.length (loud p).1 closing ∧
        (loud p).2.traced = executed.map lineOf ++ closing ∧
        (loud p).2.traced =
          ["  [   0] PRINT(0)".toList, "  [   1] HALT".toList, "Halted after 2 steps".toList] ∧
        closing = ["Halted after 2 steps".toList]) ∧
      (assemble {} "print a\ndiv a b".toList).result = .ok q ∧
      ∃ executed m closing, Executes q.instructions {} executed m ∧
        Closing q.instructions m executed.length (loud q).1 closing ∧
        (loud q).2.traced = executed.map lineOf ++ closing ∧
        (loud q).2.traced = ["  [   0] PRINT(0)".toList, "  [   1] DIV(0, 1)".toList] ∧
        closing = ["  [   1] DIV(0, 1)".toList] := by
  intro p q loud
  have hp : (assemble {} "print a".toList).result = .ok p := by rfl
  have hq : (assemble {} "print a\ndiv a b".toList).result = .ok q := by rfl
  obtain ⟨-, -, -, executed, m, closing, hexecutes, hm, hlength, hclosing, hlines, -⟩ :=
    run_traced hp none
  obtain ⟨-, -, -, executed', m', closing', hexecutes', hm', hlength', hclosing', hlines', -⟩ :=
    run_traced hq none
  have htwo : executed.length = 2 := hlength.symm.trans (hm.steps.symm.trans (by rfl))
  have hone : executed'.length = 1 := hlength'.symm.trans (hm'.steps.symm.trans (by rfl))
  have hlast : closing = (loud p).2.traced.drop 2 := by
    rw [hlines, List.drop_left' (by rw [List.length_map, htwo])]
  have hlast' : closing' = (loud q).2.traced.drop 1 := by
    rw [hlines', List.drop_left' (by rw [List.length_map, hone])]
  exact ⟨hp, ⟨executed, m, closing, hexecutes, hclosing, hlines, by rfl, hlast.trans rfl⟩, hq,
    executed', m', closing', hexecutes', hclosing', hlines', by rfl, hlast'.trans rfl⟩

end LetterMachine.Machine
