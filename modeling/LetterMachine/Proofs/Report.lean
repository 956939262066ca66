import LetterMachine.Proofs.Canonical
import LetterMachine.Proofs.Flow
import LetterMachine.Proofs.Registers
import Mathlib.Algebra.Group.Nat.Defs

namespace LetterMachine

/-- The families of diagnostics of a running program. -/
def Diagnostic.Kind.isExecution : Diagnostic.Kind → Bool
  | execution | negativeResult | divisionByZero | overflow => true
  | _ => false

theorem FaultCause.isExecution_kind (cause : FaultCause) : cause.kind.isExecution = true := by
  cases cause <;> rfl

/-- The largest number that an action can try to store in a register. -/
def resultBound : Nat := (Register.maxValue + 1) ^ 255

theorem resultBound_lt : resultBound < 10 ^ Text.maxDigits := by
  have hle : resultBound ≤ (10 ^ 5) ^ 255 := Nat.pow_le_pow_left (by decide) 255
  have hdigits : 5 * 255 < Text.maxDigits := by decide
  rw [← Nat.pow_mul] at hle
  generalize 5 * 255 = digits at hle hdigits
  exact Nat.lt_of_le_of_lt hle (Nat.pow_lt_pow_right (by decide) hdigits)

theorem sq_le_resultBound : (Register.maxValue + 1) ^ 2 ≤ resultBound :=
  Nat.pow_le_pow_right (by decide) (by decide)

theorem Text.tooManyDigits_of_le {n : Int} (hlow : 0 ≤ n) (hhigh : n ≤ resultBound) :
    tooManyDigits n = false := by
  apply decide_eq_false
  apply Nat.not_lt.mpr
  apply (Nat.length_toDigits_le_iff (by decide) (by decide)).mpr
  have hlt := resultBound_lt
  omega

namespace Action

/-- The number that an action brings along. -/
def literal? : Action → Option Int
  | load _ value => some value
  | power _ exponent => some exponent
  | _ => none

theorem literal?_of_ofInstruction {length : Nat} {i : Instruction} {a : Action} {n : Int}
    (h : ofInstruction length i = .ok a) (hn : a.literal? = some n) : n = i.src := by
  cases checked_of_ofInstruction h with
  | ok _ _ =>
      rcases i with ⟨op, dest, src⟩
      cases op with
      | mov | pow => exact (Option.some.inj hn).symm
      | _ => cases hn

theorem numbers_of_ofInstruction {length : Nat} {i : Instruction} {cause : FaultCause}
    (h : ofInstruction length i = .error cause) :
    cause.numbers = [i.dest] ∨ cause.numbers = [i.src] := by
  cases checked_of_ofInstruction h with
  | dest _ _ => exact .inl rfl
  | src _ _ _ => exact .inr rfl
  | target _ _ => exact .inl rfl

end Action

namespace Machine

theorem InRange.power_le {m : Machine} (hm : InRange m) (r : Register) {exponent : Nat}
    (hexponent : exponent < Decoding.exponentLimit) :
    Machine.power (m.read r) exponent ≤ resultBound := by
  obtain ⟨base, hbase⟩ := Int.eq_ofNat_of_zero_le (hm r).1
  have hword : base ≤ Register.maxValue + 1 := by
    have hhigh := (hm r).2
    omega
  have hpow : base ^ exponent ≤ resultBound :=
    calc
      base ^ exponent ≤ (Register.maxValue + 1) ^ exponent := Nat.pow_le_pow_left hword exponent
      _ ≤ resultBound := Nat.pow_le_pow_right (by decide) (Nat.le_of_lt_succ hexponent)
  rw [power_eq, hbase]
  change ((base : Int) ^ exponent) ≤ _
  rw [← Int.natCast_pow]
  exact Int.ofNat_le.mpr hpow

theorem InRange.result?_le {m : Machine} (hm : InRange m) {a : Action}
    (hword : ∀ n, a.literal? = some n → n ≤ Register.maxValue)
    (hexponent : ∀ r n, a = .power r n → n < Decoding.exponentLimit) {dest : Register}
    {value : Int} (hresult : a.result? m = some (dest, value)) : value ≤ resultBound := by
  have hsq : (65536 * 65536 : Int) ≤ resultBound := Int.ofNat_le.mpr sq_le_resultBound
  have hmax : (Register.maxValue : Int) = 65535 := rfl
  have hread : ∀ r, 0 ≤ m.read r ∧ m.read r ≤ 65535 := hm
  cases a with
  | add left right =>
      cases hresult
      have hleft := hread dest
      have hright := hread right
      omega
  | sub left right =>
      cases hresult
      have hleft := hread dest
      have hright := hread right
      omega
  | mul left right =>
      cases hresult
      have hle : m.read dest * m.read right ≤ 65535 * 65535 :=
        Int.mul_le_mul (hread dest).2 (hread right).2 (hread right).1 (by decide)
      omega
  | div left right =>
      simp only [Action.result?] at hresult
      split at hresult
      · cases hresult
      · cases hresult
        have hle : (m.read dest).fdiv (m.read right) ≤ m.read dest := by
          rw [Int.fdiv_eq_ediv_of_nonneg _ (hread right).1]
          exact Int.ediv_le_self _ (hread dest).1
        have hhigh := (hread dest).2
        omega
  | load left literal =>
      cases hresult
      have hliteral := hword value rfl
      omega
  | copy left right =>
      cases hresult
      have hright := hread right
      omega
  | clear left =>
      cases hresult
      omega
  | decrement left =>
      cases hresult
      have hleft := hread dest
      omega
  | increment left =>
      cases hresult
      have hleft := hread dest
      omega
  | power left exponent =>
      cases hresult
      have hlt := hexponent dest exponent rfl
      have hpos : 0 < Decoding.exponentLimit := by decide
      exact hm.power_le dest (by omega)
  | swap | compare | print | jump | halt => cases hresult

theorem InRange.numbers_of_performed {m m' : Machine} (hm : InRange m) {length : Nat}
    {i : Instruction} (hi : i.Canonical) {a : Action}
    (hcheck : Action.ofInstruction length i = .ok a) {cause : FaultCause}
    (h : Performed m a (.error cause) m') : cause.numbers.any Text.tooManyDigits = false := by
  cases h with
  | negative _ _ => rfl
  | divisionByZero _ => rfl
  | @overflow _ dest value hresult hvalue =>
      have hword : ∀ n, a.literal? = some n → n ≤ Register.maxValue := by
        intro n hn
        rw [Action.literal?_of_ofInstruction hcheck hn]
        exact hi.src_mem.2
      have hexponent : ∀ r n, a = .power r n → n < Decoding.exponentLimit := by
        rintro r n rfl
        have hop : i.opcode = .pow := (Action.opcode_of_ofInstruction hcheck).symm
        rw [Action.literal?_of_ofInstruction hcheck rfl]
        exact hi.exponent_lt hop
      have hhigh := hm.result?_le hword hexponent hresult
      have hlow : 0 ≤ value := by omega
      simp [FaultCause.numbers, Text.tooManyDigits_of_le hlow hhigh]

theorem report_failed {ip : Int} {i : Instruction} {cause : FaultCause}
    (hi : i.Canonical) (hcause : cause.numbers.any Text.tooManyDigits = false) :
    (RunFault.failed ip i cause).report =
      .diagnostic ⟨cause.kind, cause.detail i, .program (some ip) (some i.shown)⟩ := by
  have hnumbers : (RunFault.failed ip i cause).numbers.any Text.tooManyDigits = false := by
    rw [RunFault.numbers, List.any_append, hi.any_tooManyDigits, hcause]
    rfl
  rw [RunFault.report, hnumbers]
  rfl

/-- A running machine that has a canonical instruction to execute and fails is reported by a
diagnostic at that instruction. -/
theorem Stepped.report {code : List Instruction} {verbose : Bool} {m m' : Machine}
    {fault : RunFault} (h : Stepped code verbose m (.error fault) m')
    (hrunning : m.halted = false) (hm : InRange m) {i : Instruction}
    (hfetch : fetch code m.ip = some i) (hi : i.Canonical) :
    ∃ cause, fault = .failed m.ip i cause ∧ fault.report =
      .diagnostic ⟨cause.kind, cause.detail i, .program (some m.ip) (some i.shown)⟩ := by
  cases h with
  | halted hhalted =>
      rw [hrunning] at hhalted
      cases hhalted
  | ipOutside _ hnone =>
      rw [hfetch] at hnone
      cases hnone
  | operand _ hfetch' hcheck =>
      rw [hfetch] at hfetch'
      cases hfetch'
      refine ⟨_, rfl, report_failed hi ?_⟩
      rcases Action.numbers_of_ofInstruction hcheck with hnumbers | hnumbers
      · rw [hnumbers]
        simp [Text.tooManyDigits_of_word hi.dest_mem.1 hi.dest_mem.2]
      · rw [hnumbers]
        simp [Text.tooManyDigits_of_word hi.src_mem.1 hi.src_mem.2]
  | unshowable _ hfetch' _ hlong =>
      rw [hfetch] at hfetch'
      cases hfetch'
      rw [hi.any_tooManyDigits] at hlong
      cases hlong
  | failed hready hperform =>
      have hfetch' := hready.fetched
      rw [hfetch] at hfetch'
      cases hfetch'
      have hnoted := hm.noted verbose (traceLine m.ip i)
      exact ⟨_, rfl, report_failed hi (hnoted.numbers_of_performed hi hready.checked hperform)⟩

end Machine

end LetterMachine
