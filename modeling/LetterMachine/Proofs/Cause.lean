import LetterMachine.Proofs.Pointer
import LetterMachine.Proofs.Report
import LetterMachine.Proofs.Semantics

namespace LetterMachine

/-- Why an instruction of a program of the given length fails, by what the registers hold, with the
family of the diagnostic and what it says. The operands are looked at first. -/
inductive Instruction.Fails (i : Instruction) (length : Nat) (held : Register → Int) :
    Diagnostic.Kind → Text → Prop
  | dest (hkind : i.opcode.operandKinds[0]? = some .register) (hdest : 25 < i.dest) :
      Fails i length held .execution ("Invalid register: ".toList ++ Text.ofInt i.dest)
  | src (hvalid : i.dest ≤ 25) (hkind : i.opcode.operandKinds[1]? = some .register)
      (hsrc : 25 < i.src) :
      Fails i length held .execution ("Invalid register: ".toList ++ Text.ofInt i.src)
  | target (hop : i.opcode = .jmp) (htarget : length ≤ i.dest) :
      Fails i length held .execution
        ("Jump target ".toList ++ Text.ofInt i.dest ++ " is outside the program".toList)
  | sub {d s : Register} (hop : i.opcode = .sub) (hnames : i.Names d s)
      (hless : held d < held s) :
      Fails i length held .negativeResult (i.line ++ " will result in negative number".toList)
  | dec {d s : Register} (hop : i.opcode = .dec) (hnames : i.Names d s) (hzero : held d = 0) :
      Fails i length held .negativeResult (i.line ++ " will result in negative number".toList)
  | div {d s : Register} (hop : i.opcode = .div) (hnames : i.Names d s) (hzero : held s = 0) :
      Fails i length held .divisionByZero "Division by zero".toList
  | overflow {d s : Register} {value : Int} (hop : i.opcode ∈ [.add, .mul, .inc, .pow])
      (hnames : i.Names d s) (hresult : i.result? (held d) (held s) = some value)
      (hlarge : 65535 < value) :
      Fails i length held .overflow
        (i.line ++ " will overflow 16 bits (".toList ++ Text.ofInt value ++ [')'])

namespace Machine

/-- A step of a machine is refused with a diagnostic. -/
inductive Refused (code : List Instruction) (m : Machine) : Diagnostic → Prop
  | halted (hhalted : m.halted = true) :
      Refused code m ⟨.execution, "Machine is halted".toList, .program none none⟩
  | failed {i : Instruction} {kind : Diagnostic.Kind} {detail : Text} (hrunning : m.halted = false)
      (hfetch : fetch code m.ip = some i) (hfails : i.Fails code.length m.read kind detail) :
      Refused code m ⟨kind, detail, .program (some m.ip) (some i.shown)⟩

variable {code : List Instruction} {verbose : Bool} {m m' : Machine} {i : Instruction}
  {d s : Register} {cause : FaultCause} {value : Int}

section Result

variable (hm : InRange m) (hi : i.Canonical)
  (hresult : i.result? (m.read d) (m.read s) = some value)

include hm hi hresult

theorem InRange.opcode_of_negative (hvalue : value < 0) :
    i.opcode = .sub ∧ m.read d < m.read s ∨ i.opcode = .dec ∧ m.read d = 0 := by
  have hd := (hm d).1
  have hs := (hm s).1
  have hsrc := hi.src_mem.1
  rcases i with ⟨op, dest, src⟩
  cases op with
  | sub =>
      cases hresult
      exact .inl ⟨rfl, by omega⟩
  | dec =>
      cases hresult
      exact .inr ⟨rfl, by omega⟩
  | mul =>
      cases hresult
      exact absurd (Int.mul_nonneg hd hs) (by omega)
  | div =>
      cases hresult
      exact absurd (Int.fdiv_nonneg hd hs) (by omega)
  | pow =>
      cases hresult
      exact absurd (Int.pow_nonneg hd) (Int.not_le.mpr hvalue)
  | add | mov | movr | clr | inc =>
      cases hresult
      omega
  | swap | cmp | print | jmp | halt => cases hresult

theorem InRange.opcode_of_large (hvalue : Register.maxValue < value) :
    i.opcode ∈ [.add, .mul, .inc, .pow] := by
  have hd := hm d
  have hs := hm s
  have hsrc := hi.src_mem.2
  rcases i with ⟨op, dest, src⟩
  cases op with
  | add | mul | inc | pow => simp
  | div =>
      cases hresult
      rw [Int.fdiv_eq_ediv_of_nonneg _ hs.1] at hvalue
      have hle := Int.ediv_le_self (m.read s) hd.1
      omega
  | sub | mov | movr | clr | dec =>
      cases hresult
      omega
  | swap | cmp | print | jmp | halt => cases hresult

end Result

theorem InRange.fails_of_performed (hm : InRange m) (hi : i.Canonical) (hnames : i.Names d s)
    (h : Performed m (i.action d s) (.error cause) m') (length : Nat) :
    i.Fails length m.read cause.kind (cause.detail i) := by
  generalize haction : i.action d s = a at h
  cases h with
  | negative hresult hvalue =>
      subst haction
      obtain ⟨rfl, hresult, -⟩ := result?_action_eq_some_iff.mp hresult
      rcases hm.opcode_of_negative hi hresult hvalue with ⟨hop, hless⟩ | ⟨hop, hzero⟩
      · exact .sub hop hnames hless
      · exact .dec hop hnames hzero
  | overflow hresult hvalue =>
      subst haction
      obtain ⟨rfl, hresult, -⟩ := result?_action_eq_some_iff.mp hresult
      exact .overflow (hm.opcode_of_large hi hresult hvalue) hnames hresult hvalue
  | @divisionByZero left right hzero =>
      have hop : i.opcode = .div := by rw [← Action.opcode_action i d s, haction]; rfl
      obtain ⟨rfl, rfl⟩ : d = left ∧ s = right := by simpa [Instruction.action, hop] using haction
      exact .div hop hnames hzero

theorem fails_of_checked (hi : i.Canonical)
    (h : Action.Checked code.length i (.error cause)) (m : Machine) :
    i.Fails code.length m.read cause.kind (cause.detail i) := by
  have hdest := hi.dest_mem.1
  have hsrc := hi.src_mem.1
  cases h with
  | dest hkind hnone =>
      rw [Register.ofInt?_eq_none_iff] at hnone
      exact .dest hkind (by omega)
  | src hsome hkind hnone =>
      rw [Register.ofInt?_eq_none_iff] at hnone
      rw [Register.ofInt?_eq_some_iff] at hsome
      exact .src (by omega) hkind (by omega)
  | target hop htarget => exact .target hop (by omega)

theorem Ready.step_of_result (hready : Ready code m i (i.action d s))
    (hresult : i.result? (m.read d) (m.read s) = some value) (hop : i.opcode ≠ .div)
    (hcause : value < 0 ∧ cause = .negativeResult ∨
      Register.maxValue < value ∧ cause = .overflow value) :
    ∃ m', (step code verbose).run.run m = (.error (.failed m.ip i cause), m') := by
  have hnoted : (i.action d s).result? (m.noted verbose (traceLine m.ip i)) = some (d, value) := by
    apply result?_action_eq_some_iff.mpr
    exact ⟨rfl, by simpa using hresult, fun h => absurd h hop⟩
  rcases hcause with ⟨hvalue, rfl⟩ | ⟨hvalue, rfl⟩
  · exact ⟨_, (Stepped.failed hready (.negative hnoted hvalue)).run_eq⟩
  · exact ⟨_, (Stepped.failed hready (.overflow hnoted hvalue)).run_eq⟩

end Machine

open Machine in
/-- An instruction for whose failure there is a cause fails for it. -/
theorem Instruction.Fails.step {code : List Instruction} {m : Machine} {i : Instruction}
    {kind : Diagnostic.Kind} {detail : Text} (h : i.Fails code.length m.read kind detail)
    (hrunning : m.halted = false) (hfetch : fetch code m.ip = some i) (hi : i.Canonical)
    (verbose : Bool) :
    ∃ cause m', (step code verbose).run.run m = (.error (.failed m.ip i cause), m') ∧
      cause.kind = kind ∧ cause.detail i = detail := by
  have hready : ∀ {d s}, i.Names d s → i.opcode ≠ .jmp → Ready code m i (i.action d s) := by
    intro d s hnames hop
    exact ⟨hrunning, hfetch, Action.ofInstruction_of_names hnames fun h => absurd h hop,
      hi.any_tooManyDigits⟩
  cases h with
  | dest hkind hdest =>
      have hnone : Register.ofInt? i.dest = none := Register.ofInt?_eq_none_iff.mpr (.inr hdest)
      have hcheck : Action.ofInstruction code.length i = .error (.invalidRegister i.dest) :=
        Action.ofInstruction_of_dest hkind hnone
      exact ⟨_, m, (Stepped.operand hrunning hfetch hcheck).run_eq, rfl, rfl⟩
  | src hvalid hkind hsrc =>
      have hnone : Register.ofInt? i.src = none := Register.ofInt?_eq_none_iff.mpr (.inr hsrc)
      have hlow := hi.dest_mem.1
      rcases hdest : Register.ofInt? i.dest with _ | d
      · rw [Register.ofInt?_eq_none_iff] at hdest
        omega
      · have hcheck : Action.ofInstruction code.length i = .error (.invalidRegister i.src) :=
          Action.ofInstruction_of_src hdest hkind hnone
        exact ⟨_, m, (Stepped.operand hrunning hfetch hcheck).run_eq, rfl, rfl⟩
  | target hop htarget =>
      have hcheck : Action.Checked code.length i (.error (.targetOutside i.dest)) :=
        .target hop (by omega)
      exact ⟨_, m, (Stepped.operand hrunning hfetch hcheck.ofInstruction_eq).run_eq, rfl, rfl⟩
  | @sub d s hop hnames hless =>
      have hresult : i.result? (m.read d) (m.read s) = some (m.read d - m.read s) := by
        rw [Instruction.result?, hop]
      obtain ⟨m', hstep⟩ := (hready hnames (by simp [hop])).step_of_result hresult (by simp [hop])
        (.inl ⟨by omega, rfl⟩)
      exact ⟨_, m', hstep, rfl, rfl⟩
  | @dec d s hop hnames hzero =>
      have hresult : i.result? (m.read d) (m.read s) = some (m.read d - 1) := by
        rw [Instruction.result?, hop]
      obtain ⟨m', hstep⟩ := (hready hnames (by simp [hop])).step_of_result hresult (by simp [hop])
        (.inl ⟨by omega, rfl⟩)
      exact ⟨_, m', hstep, rfl, rfl⟩
  | @div d s hop hnames hzero =>
      have haction : i.action d s = .div d s := by rw [Instruction.action, hop]
      have hready := hready hnames (by simp [hop])
      rw [haction] at hready
      have hnoted : (m.noted verbose (traceLine m.ip i)).read s = 0 := by simpa using hzero
      exact ⟨_, _, (Stepped.failed hready (.divisionByZero hnoted)).run_eq, rfl, rfl⟩
  | @overflow d s value hop hnames hresult hlarge =>
      have hjmp : i.opcode ≠ .jmp := by
        intro h
        rw [h] at hop
        exact absurd hop (by decide)
      have hdiv : i.opcode ≠ .div := by
        intro h
        rw [h] at hop
        exact absurd hop (by decide)
      obtain ⟨m', hstep⟩ := (hready hnames hjmp).step_of_result hresult hdiv (.inr ⟨hlarge, rfl⟩)
      exact ⟨_, m', hstep, rfl, rfl⟩

namespace Machine

variable {code : List Instruction} {verbose : Bool} {m m' : Machine}

theorem Inside.exists_fetch (h : Inside code m) (hrunning : m.halted = false) :
    ∃ i, fetch code m.ip = some i := by
  obtain ⟨hlow, hhigh⟩ := h.running hrunning
  have hlt : m.ip.toNat < code.length := by omega
  exact ⟨code[m.ip.toNat], fetch_eq_some_iff.mpr ⟨hlow, List.getElem?_eq_getElem hlt⟩⟩

/-- An instruction that fails does so for one of the causes. -/
theorem Stepped.fails {ip : Int} {i : Instruction} {cause : FaultCause}
    (h : Stepped code verbose m (.error (.failed ip i cause)) m') (hm : InRange m)
    (hi : i.Canonical) : i.Fails code.length m.read cause.kind (cause.detail i) := by
  cases h with
  | operand _ _ hcheck => exact fails_of_checked hi (Action.checked_of_ofInstruction hcheck) m
  | failed hready hperform =>
      cases Action.checked_of_ofInstruction hready.checked with
      | ok hnames _ =>
          have hnoted := hm.noted verbose (traceLine m.ip i)
          have hread : (m.noted verbose (traceLine m.ip i)).read = m.read :=
            funext (noted_read verbose _ m)
          rw [← hread]
          exact hnoted.fails_of_performed hi hnames hperform code.length

theorem Stepped.refused {fault : RunFault} (h : Stepped code verbose m (.error fault) m')
    (hm : InRange m) (hinside : Inside code m) (hcode : ∀ i ∈ code, i.Canonical) :
    ∃ d, fault.report = .diagnostic d ∧ Refused code m d := by
  cases hhalted : m.halted with
  | true =>
      cases h with
      | halted _ => exact ⟨_, rfl, .halted hhalted⟩
      | ipOutside hrunning | operand hrunning | unshowable hrunning =>
          rw [hrunning] at hhalted
          cases hhalted
      | failed hready =>
          rw [hready.running] at hhalted
          cases hhalted
  | false =>
      obtain ⟨i, hfetch⟩ := hinside.exists_fetch hhalted
      have hi := hcode i (mem_of_fetch hfetch)
      obtain ⟨cause, rfl, hreport⟩ := h.report hhalted hm hfetch hi
      exact ⟨_, hreport, .failed hhalted hfetch (h.fails hm hi)⟩

theorem Refused.step {d : Diagnostic} (h : Refused code m d) (hm : InRange m)
    (hcode : ∀ i ∈ code, i.Canonical) (verbose : Bool) :
    ∃ fault m', (Machine.step code verbose).run.run m = (.error fault, m') ∧
      fault.report = .diagnostic d := by
  cases h with
  | halted hhalted =>
      refine ⟨.halted, m, ?_, rfl⟩
      rw [run_step, if_pos hhalted]
  | failed hrunning hfetch hfails =>
      have hi := hcode _ (mem_of_fetch hfetch)
      obtain ⟨_, m', hstep, rfl, rfl⟩ := hfails.step hrunning hfetch hi verbose
      obtain ⟨cause, hfault, hreport⟩ := (stepped_of_run hstep).report hrunning hm hfetch hi
      cases hfault
      exact ⟨_, m', hstep, hreport⟩

/-- Whatever was asked of a machine on an assembled program, its next step fails exactly if it is
refused, and then with a diagnostic that says why. -/
theorem step_fails_iff_refused {flags : AssemblyFlags} {source : Text} {p : Program}
    (h : (assemble flags source).result = .ok p) (verbose : Bool) (calls : List Call) :
    let m := afterCalls p.instructions verbose calls {}
    (∀ fault m', (step p.instructions verbose).run.run m = (.error fault, m') →
      ∃ d, fault.report = .diagnostic d ∧ Refused p.instructions m d) ∧
    ∀ d, Refused p.instructions m d →
      ∃ fault m', (step p.instructions verbose).run.run m = (.error fault, m') ∧
        fault.report = .diagnostic d := by
  intro m
  have hp := Program.wellFormed_of_assemble h
  have hm : InRange m := (kept_inRange p.instructions verbose).afterCalls calls inRange_new
  have hinside : Inside p.instructions m :=
    (kept_inside hp.getLast verbose).afterCalls calls (inside_new hp.getLast)
  constructor
  · intro fault m' hstep
    exact (stepped_of_run hstep).refused hm hinside hp.canonical
  · intro d hd
    exact hd.step hm hp.canonical verbose

theorem step_fails_iff_refused_power :
    let source := "mov a 65535\npow a 255".toList
    let p : Program := ⟨[⟨.mov, 0, 65535⟩, ⟨.pow, 0, 255⟩, .halt], []⟩
    let m := afterCalls p.instructions true [.step] {}
    (assemble {} source).result = .ok p ∧
      ∃ fault m', (step p.instructions true).run.run m = (.error fault, m') ∧
        ∃ d, fault.report = .diagnostic d ∧ d.kind = .overflow ∧
          d.place = .program (some 1) (some "POW(0, 255)".toList) := by
  intro source p m
  have hp : (assemble {} source).result = .ok p := by rfl
  have hnames : (⟨.pow, 0, 255⟩ : Instruction).Names 0 0 := ⟨fun _ => rfl, nofun⟩
  have hlarge : (Register.maxValue : Int) < 65535 ^ 255 := by decide
  have hrefused : Refused p.instructions m _ :=
    .failed (by rfl) (by rfl) (.overflow (by decide) hnames (by rfl) hlarge)
  obtain ⟨fault, m', hstep, hreport⟩ := (step_fails_iff_refused hp true [.step]).2 _ hrefused
  exact ⟨hp, fault, m', hstep, _, hreport, rfl, by rfl⟩

end Machine

end LetterMachine
