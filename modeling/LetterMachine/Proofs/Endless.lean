import LetterMachine.Proofs.Alike
import LetterMachine.Proofs.Flow
import LetterMachine.Proofs.Registers
import Mathlib.Data.Fintype.BigOperators

/-!
Endless runs. A run without a limit that has made all the steps it is allowed has been in one state
twice, so that it goes on for ever.
-/

namespace LetterMachine.Machine

variable {code : List Instruction} {verbose : Bool} {m m' a b : Machine}

/-- The machine can make any number of steps. -/
def Endless (code : List Instruction) (verbose : Bool) (m : Machine) : Prop :=
  ∀ n : Nat, ∃ indices m', indices.length = n ∧ Trail code verbose m indices m'

theorem Trail.endless {indices : List Int} (htrail : Trail code verbose m indices m')
    (hendless : Endless code verbose m') : Endless code verbose m := by
  intro n
  obtain ⟨further, m₂, hlength, hfurther⟩ := hendless n
  have hall := htrail.append hfurther
  rw [← List.take_append_drop n (indices ++ further)] at hall
  obtain ⟨m₁, hfront, -⟩ := hall.split
  refine ⟨_, m₁, ?_, hfront⟩
  rw [List.length_take, List.length_append]
  omega

/-- A machine that comes back to where it was does so again and again. -/
theorem Trail.endless_of_alike {loop : List Int} (htrail : Trail code verbose a loop b)
    (hne : loop ≠ []) (halike : Alike a b) : Endless code verbose a := by
  have hpos : 0 < loop.length := List.length_pos_iff.mpr hne
  have hagain : ∀ n, ∃ indices c, n ≤ indices.length ∧ Trail code verbose a indices c ∧
      Alike a c := by
    intro n
    induction n with
    | zero => exact ⟨[], a, Nat.zero_le _, .nil a, rfl, rfl, rfl⟩
    | succ n ih =>
        obtain ⟨indices, c, hlength, hindices, hc⟩ := ih
        obtain ⟨d, hloop, hd⟩ := hc.trail htrail
        refine ⟨indices ++ loop, d, ?_, hindices.append hloop, halike.trans hd⟩
        rw [List.length_append]
        omega
  intro n
  obtain ⟨indices, c, hlength, hindices, -⟩ := hagain n
  rw [← List.take_append_drop n indices] at hindices
  obtain ⟨m₁, hfront, -⟩ := hindices.split
  refine ⟨_, m₁, ?_, hfront⟩
  rw [List.length_take]
  omega

/-- The values that a register can hold while the machine runs. -/
def values (m : Machine) : Finset Int :=
  (Finset.range (Register.maxValue + 1)).image Int.ofNat ∪ Finset.univ.image m.read

theorem card_values_le (m : Machine) : m.values.card ≤ valueCount := by
  have hwords : ((Finset.range (Register.maxValue + 1)).image Int.ofNat).card ≤
      Register.maxValue + 1 := by
    refine Finset.card_image_le.trans ?_
    rw [Finset.card_range]
  have hread : (Finset.univ.image m.read).card ≤ 26 := by
    refine Finset.card_image_le.trans ?_
    rw [Finset.card_univ, Fintype.card_fin]
  exact (Finset.card_union_le _ _).trans (Nat.add_le_add hwords hread)

/-- The indices and the contents of the registers with which a machine can make a step. -/
def places (code : List Instruction) (m : Machine) : Finset (Nat × (Register → Int)) :=
  Finset.range code.length ×ˢ Fintype.piFinset fun _ => m.values

theorem card_places_lt (code : List Instruction) (m : Machine) :
    (m.places code).card < allowance code none m := by
  apply Nat.lt_succ_of_le
  rw [places, Finset.card_product, Finset.card_range, Fintype.card_piFinset_const]
  exact Nat.mul_le_mul_left _ (Nat.pow_le_pow_left (card_values_le m) 26)

theorem word_mem_values (m : Machine) {value : Int} (hlow : 0 ≤ value)
    (hhigh : value ≤ Register.maxValue) : value ∈ m.values := by
  obtain ⟨n, rfl⟩ := Int.eq_ofNat_of_zero_le hlow
  apply Finset.mem_union_left
  apply Finset.mem_image.mpr
  exact ⟨n, Finset.mem_range.mpr (Nat.lt_succ_of_le (Int.ofNat_le.mp hhigh)), rfl⟩

theorem read_mem_values (m : Machine) (r : Register) : m.read r ∈ m.values :=
  Finset.mem_union_right _ (Finset.mem_image_of_mem _ (Finset.mem_univ r))

theorem Trail.mem_places {indices : List Int} (htrail : Trail code verbose m indices a)
    {index : Int} {rest : List Int} (hahead : Trail code verbose a (index :: rest) b) :
    a.halted = false ∧ 0 ≤ a.ip ∧ (a.ip.toNat, a.read) ∈ m.places code := by
  have hkept : Kept code verbose (Holds (· ∈ m.values)) :=
    kept_holds (fun _ hlow hhigh => m.word_mem_values hlow hhigh) code verbose
  have hread := hkept.trail htrail m.read_mem_values
  cases hahead with
  | cons hstep _ =>
      obtain ⟨i, hfetch, -⟩ := flow_of_step hstep
      obtain ⟨hlow, hhigh⟩ := lt_of_fetch hfetch
      refine ⟨running_of_step hstep, hlow, ?_⟩
      rw [places, Finset.mem_product, Finset.mem_range, Fintype.mem_piFinset]
      exact ⟨(Int.toNat_lt hlow).mpr hhigh, fun r => hread r⟩

theorem alike_of_read (hread : b.read = a.read) (hip : b.ip = a.ip) (ha : a.halted = false)
    (hb : b.halted = false) : Alike a b where
  registers := by
    ext n hn
    exact congrFun hread ⟨n, hn⟩
  ip := hip
  halted := by rw [ha, hb]

/-- More successful steps than there are places to make them lead to one place twice. -/
theorem Trail.endless_of_length {indices : List Int} (htrail : Trail code verbose m indices m')
    (hlength : indices.length = allowance code none m) : Endless code verbose m := by
  have hsplit : ∀ n : Fin indices.length, ∃ a, Trail code verbose m (indices.take n) a ∧
      a.halted = false ∧ 0 ≤ a.ip ∧ (a.ip.toNat, a.read) ∈ m.places code := by
    intro n
    have hall := htrail
    rw [← List.take_append_drop n indices] at hall
    obtain ⟨a, hfront, hback⟩ := hall.split
    rw [List.drop_eq_getElem_cons n.isLt] at hback
    exact ⟨a, hfront, hfront.mem_places hback⟩
  choose after hfront hrunning hlow hplace using hsplit
  have hcard : (m.places code).card < (Finset.univ : Finset (Fin indices.length)).card := by
    rw [Finset.card_univ, Fintype.card_fin, hlength]
    exact card_places_lt code m
  obtain ⟨i, -, j, -, hne, heq⟩ := Finset.exists_ne_map_eq_of_card_lt_of_maps_to hcard
    (f := fun n => ((after n).ip.toNat, (after n).read)) fun n _ => hplace n
  have hloop : ∀ i j : Fin indices.length, i < j → (after i).ip = (after j).ip →
      (after i).read = (after j).read → Endless code verbose m := by
    intro i j hij hip hread
    have hi := i.isLt
    have hj := j.isLt
    obtain ⟨loop, hlonger, hrest⟩ := (hfront i).continues (hfront j) (by
      rw [List.length_take, List.length_take]
      omega)
    have hlength := congrArg List.length hlonger
    rw [List.length_append, List.length_take, List.length_take] at hlength
    have hnonempty : loop ≠ [] := by
      rintro rfl
      simp only [List.length_nil] at hlength
      omega
    have halike := alike_of_read hread.symm hip.symm (hrunning i) (hrunning j)
    exact (hfront i).endless (hrest.endless_of_alike hnonempty halike)
  have hip : (after i).ip = (after j).ip := by
    have htoNat := congrArg Prod.fst heq
    have hi := hlow i
    have hj := hlow j
    omega
  have hread := congrArg Prod.snd heq
  rcases lt_or_gt_of_ne hne with hij | hij
  · exact hloop i j hij hip hread
  · exact hloop j i hij hip.symm hread.symm

theorem Endless.advance_eq_none (hendless : Endless code verbose m) (n : Nat) :
    (advance code verbose n m).1 = none := by
  obtain ⟨longer, m₂, hlonger, htrail⟩ := hendless (n + 1)
  have hadvanced := advanced_advance code verbose n m
  rcases hresult : advance code verbose n m with ⟨ending, m'⟩
  rw [hresult] at hadvanced
  cases hadvanced with
  | @halted indices _ hindices hlength hhalted =>
      obtain ⟨rest, rfl, hrest⟩ := hindices.continues htrail (by omega)
      obtain ⟨rfl, -⟩ := hrest.eq_nil_of_halted hhalted
      rw [List.append_nil] at hlonger
      omega
  | @failed indices m₁ _ fault hindices hlength hrunning hstep =>
      obtain ⟨rest, rfl, hrest⟩ := hindices.continues htrail (by omega)
      rw [List.length_append] at hlonger
      cases hrest with
      | nil =>
          rw [List.length_nil] at hlonger
          omega
      | cons hstep' _ =>
          rw [hstep] at hstep'
          cases hstep'
  | stopped _ _ _ => rfl

theorem run_of_stopped {limit : Option Int} (hlimit : limit = none)
    (h : (advance code verbose (allowance code limit m) m).1 = none) :
    (run code verbose limit m).1 = .endless := by
  unfold run
  generalize advance code verbose (allowance code limit m) m = result at h ⊢
  rcases result with ⟨ending, m'⟩
  cases h
  cases hlimit
  rfl

/-- A run without a limit is endless if and only if no number of steps is enough to end it. -/
theorem run_eq_endless_iff (code : List Instruction) (verbose : Bool) (m : Machine) :
    (run code verbose none m).1 = .endless ↔ ∀ n, (advance code verbose n m).1 = none := by
  constructor
  · intro hending
    rcases hrun : run code verbose none m with ⟨ending, m'⟩
    rw [hrun] at hending
    cases hending
    cases ran_of_run hrun with
    | endless _ htrail hlength _ => exact (htrail.endless_of_length hlength).advance_eq_none
  · intro hnone
    exact run_of_stopped rfl (hnone _)

theorem advance_of_le {n n' : Nat} {ending : Ending} (hle : n ≤ n')
    (h : advance code verbose n m = (some ending, m')) :
    advance code verbose n' m = (some ending, m') := by
  induction n generalizing m n' with
  | zero =>
      cases hhalted : m.halted with
      | true =>
          simp only [advance, hhalted, if_true] at h
          cases n' <;> simpa only [advance, hhalted, if_true] using h
      | false => simp [advance, hhalted] at h
  | succ n ih =>
      obtain ⟨n', rfl⟩ := Nat.exists_eq_add_of_le' (Nat.le_trans (Nat.succ_pos n) hle)
      unfold advance at h ⊢
      split
      · rename_i hhalted
        rwa [if_pos hhalted] at h
      · rename_i hrunning
        rw [if_neg hrunning] at h
        rcases hstep : (step code verbose).run.run m with ⟨fault | _, m₁⟩
        · rwa [hstep] at h
        · rw [hstep] at h
          exact ih (Nat.le_of_succ_le_succ hle) h

theorem run_none_of_run {most : Int} {ending : Ending}
    (h : run code verbose (some most) m = (ending, m'))
    (hlimit : ∀ ip, ending ≠ .failed (.stepLimit most ip)) :
    run code verbose none m = (ending, m') := by
  rcases hlimited : advance code verbose (allowance code (some most) m) m with ⟨_ | early, m₁⟩
  · rw [run, hlimited] at h
    cases h
    exact absurd rfl (hlimit m'.ip)
  · have hending : (run code verbose none m).1 ≠ .endless := by
      intro hendless
      have hnone := (run_eq_endless_iff code verbose m).mp hendless (allowance code (some most) m)
      rw [hlimited] at hnone
      cases hnone
    rcases hfree : advance code verbose (allowance code none m) m with ⟨_ | late, m₂⟩
    · exact absurd (run_of_stopped rfl (congrArg Prod.fst hfree)) hending
    · have hsame : (some late, m₂) = (some early, m₁) := by
        rcases Nat.le_total (allowance code none m) (allowance code (some most) m) with hle | hle
        · exact (advance_of_le hle hfree).symm.trans hlimited
        · exact hfree.symm.trans (advance_of_le hle hlimited)
      cases hsame
      rw [← h, run, run, hfree, hlimited]
      cases early <;> rfl

end LetterMachine.Machine
