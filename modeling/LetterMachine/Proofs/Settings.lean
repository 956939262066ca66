import LetterMachine.Proofs.Utf8
import LetterMachine.Settings

/-!
Loading settings: what comes of it for every path, every file and every configuration in it.
-/

namespace LetterMachine

open Yaml (Loader Scalar Value)

namespace Switch

theorem named?_eq_some_iff {t : Text} {s : Switch} : named? t = some s ↔ t = s.name := by
  constructor
  · intro h
    have hname := List.find?_some h
    exact (beq_iff_eq.mp hname).symm
  · rintro rfl
    cases s <;> rfl

/-- The pair of a mapping that turns a switch on or off. -/
def pair (turn : Switch × Bool) : Scalar × Value := (.str turn.1.name, .scalar (.bool turn.2))

end Switch

/-- The file at a path, which is taken as it is, holds the bytes of a text. -/
structure Files.Tree.Offers (t : Files.Tree) (path text : Text) : Prop where
  plain : '\x00' ∉ path
  bytes_eq : t.bytes path = .ok (Text.Utf8.encode text)

namespace Settings

variable {s s' : Settings} {key : Scalar} {value : Value} {pairs : List (Scalar × Value)}
  {turns : List (Switch × Bool)} {fault : SettingsFault}

/-- The settings after some turns of switches, one after the other. -/
def after (turns : List (Switch × Bool)) (s : Settings) : Settings :=
  turns.foldl (fun s turn => s.turn turn.1 turn.2) s

theorem switchOf_name (switch : Switch) : switchOf (.str switch.name) = .ok switch := by
  have hnamed : Switch.named? switch.name = some switch := Switch.named?_eq_some_iff.mpr rfl
  simp only [switchOf, hnamed]

theorem switchOf_of_ne (h : ∀ switch : Switch, key ≠ .str switch.name) :
    switchOf key = .error (.unknownKey key.text?) := by
  unfold switchOf
  split
  · rename_i t
    cases hnamed : Switch.named? t with
    | none => rfl
    | some switch => exact absurd (congrArg _ (Switch.named?_eq_some_iff.mp hnamed)) (h switch)
  · rfl

/-- The first pair of a mapping that turns no switch. -/
inductive Misfit : Scalar → Value → SettingsFault → Prop
  | unknownKey {key : Scalar} {value : Value} (hkey : ∀ switch : Switch, key ≠ .str switch.name) :
      Misfit key value (.unknownKey key.text?)
  | notTruthValue {switch : Switch} {value : Value} (hvalue : ∀ b, value ≠ .scalar (.bool b)) :
      Misfit (.str switch.name) value (.notTruthValue switch)

theorem ofPairs_append (turns : List (Switch × Bool)) (pairs : List (Scalar × Value))
    (s : Settings) :
    ofPairs (turns.map Switch.pair ++ pairs) s = ofPairs pairs (after turns s) := by
  induction turns generalizing s with
  | nil => rfl
  | cons turn turns ih =>
      change ofPairs ((.str turn.1.name, .scalar (.bool turn.2)) ::
        (turns.map Switch.pair ++ pairs)) s = _
      rw [ofPairs, switchOf_name]
      exact ih (s.turn turn.1 turn.2)

theorem Misfit.ofPairs_eq (h : Misfit key value fault) (pairs : List (Scalar × Value))
    (s : Settings) : ofPairs ((key, value) :: pairs) s = .error fault := by
  cases h with
  | unknownKey hkey =>
      rw [ofPairs, switchOf_of_ne hkey]
      rfl
  | notTruthValue hvalue =>
      rw [ofPairs, switchOf_name]
      cases value with
      | collection => rfl
      | scalar v =>
          cases v with
          | bool b => exact absurd rfl (hvalue b)
          | _ => rfl

theorem pair_or_misfit (key : Scalar) (value : Value) :
    (∃ turn, (key, value) = Switch.pair turn) ∨ ∃ fault, Misfit key value fault := by
  by_cases hkey : ∃ switch : Switch, key = .str switch.name
  · obtain ⟨switch, rfl⟩ := hkey
    by_cases hvalue : ∃ b, value = .scalar (.bool b)
    · obtain ⟨b, rfl⟩ := hvalue
      exact .inl ⟨(switch, b), rfl⟩
    · exact .inr ⟨_, .notTruthValue fun b hb => hvalue ⟨b, hb⟩⟩
  · exact .inr ⟨_, .unknownKey fun switch hs => hkey ⟨switch, hs⟩⟩

/-- A mapping turns switches only, or it does so up to a first misfit. -/
theorem turns_or_misfit (pairs : List (Scalar × Value)) :
    (∃ turns : List (Switch × Bool), pairs = turns.map Switch.pair) ∨
      ∃ (turns : List (Switch × Bool)) (key : Scalar) (value : Value)
        (rest : List (Scalar × Value)) (fault : SettingsFault),
          pairs = turns.map Switch.pair ++ (key, value) :: rest ∧ Misfit key value fault := by
  induction pairs with
  | nil => exact .inl ⟨[], rfl⟩
  | cons p pairs ih =>
      obtain ⟨key, value⟩ := p
      rcases pair_or_misfit key value with ⟨turn, hturn⟩ | ⟨fault, hfault⟩
      · rw [hturn]
        rcases ih with ⟨turns, rfl⟩ | ⟨turns, key', value', rest, fault, rfl, hfault⟩
        · exact .inl ⟨turn :: turns, rfl⟩
        · exact .inr ⟨turn :: turns, key', value', rest, fault, rfl, hfault⟩
      · exact .inr ⟨[], key, value, pairs, fault, rfl, hfault⟩

theorem ofPairs_eq_ok_iff :
    ofPairs pairs s = .ok s' ↔ ∃ turns, pairs = turns.map Switch.pair ∧ s' = after turns s := by
  have hturns (turns : List (Switch × Bool)) :
      ofPairs (turns.map Switch.pair) s = .ok (after turns s) := by
    have happend := ofPairs_append turns [] s
    rwa [List.append_nil] at happend
  constructor
  · intro h
    rcases turns_or_misfit pairs with ⟨turns, rfl⟩ | ⟨turns, key, value, rest, fault, rfl, hfault⟩
    · rw [hturns turns] at h
      cases h
      exact ⟨turns, rfl, rfl⟩
    · rw [ofPairs_append, hfault.ofPairs_eq] at h
      cases h
  · rintro ⟨turns, rfl, rfl⟩
    exact hturns turns

theorem ofDocument_value (hv : value ≠ .scalar .null) :
    ofDocument (.value value) = .error .notMapping := by
  unfold ofDocument
  split
  · rename_i heq
    cases heq
    exact absurd rfl hv
  · rfl
  · rename_i heq
    cases heq

theorem ofPairs_eq_error_iff :
    ofPairs pairs s = .error fault ↔
      ∃ (turns : List (Switch × Bool)) (key : Scalar) (value : Value)
        (rest : List (Scalar × Value)),
          pairs = turns.map Switch.pair ++ (key, value) :: rest ∧ Misfit key value fault := by
  constructor
  · intro h
    rcases turns_or_misfit pairs with ⟨turns, rfl⟩ | ⟨turns, key, value, rest, fault', rfl, hfault⟩
    · rw [ofPairs_eq_ok_iff.mpr ⟨turns, rfl, rfl⟩] at h
      cases h
    · refine ⟨turns, key, value, rest, rfl, ?_⟩
      rw [ofPairs_append, hfault.ofPairs_eq] at h
      cases h
      exact hfault
  · rintro ⟨turns, key, value, rest, rfl, hfault⟩
    rw [ofPairs_append, hfault.ofPairs_eq]

/-- What can come of loading settings, by the file and the document that the loader makes of the
text in it. -/
inductive Loads (loader : Loader) (path : Text) (t : Files.Tree) :
    Except SettingsFault Settings → Prop
  | nullCharacter (hnull : '\x00' ∈ path) : Loads loader path t (.error .nullCharacter)
  | unreadable {r : Files.Refusal} (hplain : '\x00' ∉ path) (hbytes : t.bytes path = .error r) :
      Loads loader path t (.error (.unreadable path r))
  | undecodable {bytes : List UInt8} {f : Text.Utf8.Fault} (hplain : '\x00' ∉ path)
      (hbytes : t.bytes path = .ok bytes) (hdecode : Text.Utf8.decode bytes = .error f) :
      Loads loader path t (.error (.undecodable f))
  | malformed {text : Text} {reason : Option Text} (hfile : t.Offers path text)
      (hload : loader text.unifyBreaks = .error (.malformed reason)) :
      Loads loader path t (.error (.malformed reason))
  | refused {text message : Text} {kind : Mishap.Kind} (hfile : t.Offers path text)
      (hload : loader text.unifyBreaks = .error (.raised kind message)) :
      Loads loader path t (.error (.refused kind message))
  | notMapping {text : Text} {v : Value} (hfile : t.Offers path text)
      (hload : loader text.unifyBreaks = .ok (.value v)) (hv : v ≠ .scalar .null) :
      Loads loader path t (.error .notMapping)
  | misfit {text : Text} {turns : List (Switch × Bool)} {key : Scalar} {value : Value}
      {rest : List (Scalar × Value)} {fault : SettingsFault} (hfile : t.Offers path text)
      (hload : loader text.unifyBreaks =
        .ok (.mapping (turns.map Switch.pair ++ (key, value) :: rest)))
      (hmisfit : Misfit key value fault) : Loads loader path t (.error fault)
  | defaults {text : Text} (hfile : t.Offers path text)
      (hload : loader text.unifyBreaks = .ok (.value (.scalar .null))) :
      Loads loader path t (.ok {})
  | turned {text : Text} {turns : List (Switch × Bool)} (hfile : t.Offers path text)
      (hload : loader text.unifyBreaks = .ok (.mapping (turns.map Switch.pair))) :
      Loads loader path t (.ok (after turns {}))

variable {loader : Loader} {path text : Text} {t : Files.Tree}
  {outcome : Except SettingsFault Settings}

theorem ofFile_of_null (h : '\x00' ∈ path) (t : Files.Tree) :
    ofFile loader path t = .error .nullCharacter := by
  have hcontains : path.contains '\x00' = true := by simpa using h
  rw [ofFile, hcontains, if_pos rfl]

theorem ofFile_of_plain (h : '\x00' ∉ path) (t : Files.Tree) :
    ofFile loader path t =
      match t.bytes path with
      | .error r => .error (.unreadable path r)
      | .ok bytes =>
        match Text.Utf8.decode bytes with
        | .error f => .error (.undecodable f)
        | .ok text => ofText loader text.unifyBreaks := by
  have hcontains : ¬path.contains '\x00' = true := by simpa using h
  exact if_neg hcontains

theorem ofFile_of_offers (h : t.Offers path text) :
    ofFile loader path t = ofText loader text.unifyBreaks := by
  rw [ofFile_of_plain h.plain, h.bytes_eq]
  dsimp only
  rw [Text.Utf8.decode_encode]

theorem loads_of_offers (hfile : t.Offers path text) :
    Loads loader path t (ofText loader text.unifyBreaks) := by
  unfold ofText
  cases hload : loader text.unifyBreaks with
  | error e =>
      cases e with
      | malformed reason => exact .malformed hfile hload
      | raised kind message => exact .refused hfile hload
  | ok d =>
      cases d with
      | mapping pairs =>
          dsimp only [ofDocument]
          rcases turns_or_misfit pairs with
            ⟨turns, rfl⟩ | ⟨turns, key, value, rest, fault, rfl, hmisfit⟩
          · rw [ofPairs_eq_ok_iff.mpr ⟨turns, rfl, rfl⟩]
            exact .turned hfile hload
          · rw [ofPairs_append, hmisfit.ofPairs_eq]
            exact .misfit hfile hload hmisfit
      | value v =>
          by_cases hv : v = .scalar .null
          · subst hv
            exact .defaults hfile hload
          · dsimp only
            rw [ofDocument_value hv]
            exact .notMapping hfile hload hv

/-- Loading settings does one of the listed things. -/
theorem loads_ofFile (loader : Loader) (path : Text) (t : Files.Tree) :
    Loads loader path t (ofFile loader path t) := by
  by_cases hnull : '\x00' ∈ path
  · rw [ofFile_of_null hnull]
    exact .nullCharacter hnull
  · cases hbytes : t.bytes path with
    | error r =>
        rw [ofFile_of_plain hnull, hbytes]
        exact .unreadable hnull hbytes
    | ok bytes =>
        cases hdecode : Text.Utf8.decode bytes with
        | error f =>
            simp only [ofFile_of_plain hnull, hbytes, hdecode]
            exact .undecodable hnull hbytes hdecode
        | ok text =>
            obtain rfl := Text.Utf8.decode_eq_ok_iff.mp hdecode
            have hfile : t.Offers path text := ⟨hnull, hbytes⟩
            rw [ofFile_of_offers hfile]
            exact loads_of_offers hfile

theorem Loads.ofFile_eq (h : Loads loader path t outcome) : ofFile loader path t = outcome := by
  cases h with
  | nullCharacter hnull => exact ofFile_of_null hnull t
  | unreadable hplain hbytes => rw [ofFile_of_plain hplain, hbytes]
  | undecodable hplain hbytes hdecode => simp only [ofFile_of_plain hplain, hbytes, hdecode]
  | malformed hfile hload | refused hfile hload => rw [ofFile_of_offers hfile, ofText, hload]
  | notMapping hfile hload hv =>
      rw [ofFile_of_offers hfile, ofText, hload]
      exact ofDocument_value hv
  | misfit hfile hload hmisfit =>
      rw [ofFile_of_offers hfile, ofText, hload]
      exact ofPairs_eq_error_iff.mpr ⟨_, _, _, _, rfl, hmisfit⟩
  | defaults hfile hload =>
      rw [ofFile_of_offers hfile, ofText, hload]
      rfl
  | turned hfile hload =>
      rw [ofFile_of_offers hfile, ofText, hload]
      exact ofPairs_eq_ok_iff.mpr ⟨_, rfl, rfl⟩

theorem ofFile_eq_iff : ofFile loader path t = outcome ↔ Loads loader path t outcome := by
  constructor
  · rintro rfl
    exact loads_ofFile loader path t
  · exact Loads.ofFile_eq

/-- Why loading settings comes to a mishap. -/
inductive Unreported (loader : Loader) (path : Text) (t : Files.Tree) : Mishap → Prop
  | nullCharacter (hnull : '\x00' ∈ path) : Unreported loader path t .nullCharacter
  /-- The bytes of the file are those of no text. -/
  | undecodable {bytes : List UInt8} {f : Text.Utf8.Fault} (hplain : '\x00' ∉ path)
      (hbytes : t.bytes path = .ok bytes) (hnone : ∀ text, bytes ≠ Text.Utf8.encode text)
      (hdecode : Text.Utf8.decode bytes = .error f) : Unreported loader path t (.undecodable f)
  /-- The loader raises a fault of its own. -/
  | refused {text message : Text} {kind : Mishap.Kind} (hfile : t.Offers path text)
      (hload : loader text.unifyBreaks = .error (.raised kind message)) :
      Unreported loader path t (.refused kind message)
  /-- The first key that names no switch is a number of too many digits to be shown. -/
  | longKey {text : Text} {turns : List (Switch × Bool)} {n : Int} {value : Value}
      {rest : List (Scalar × Value)} (hfile : t.Offers path text)
      (hload : loader text.unifyBreaks =
        .ok (.mapping (turns.map Switch.pair ++ (.int n, value) :: rest)))
      (hlong : Text.tooManyDigits n = true) : Unreported loader path t .longNumber

theorem text?_eq_none_iff :
    key.text? = none ↔ ∃ n, key = .int n ∧ Text.tooManyDigits n = true := by
  cases key with
  | int n => simp [Scalar.text?]
  | _ => simp [Scalar.text?]

theorem Misfit.report_eq (h : Misfit key value fault) :
    (∃ detail, fault.report = .diagnostic ⟨.config, detail, .source none none⟩) ∨
      ∃ n, key = .int n ∧ Text.tooManyDigits n = true ∧ fault.report = .mishap .longNumber := by
  cases h with
  | notTruthValue hvalue => exact .inl ⟨_, rfl⟩
  | unknownKey hkey =>
      cases htext : key.text? with
      | some shown => exact .inl ⟨_, rfl⟩
      | none =>
          obtain ⟨n, rfl, hlong⟩ := text?_eq_none_iff.mp htext
          exact .inr ⟨n, rfl, hlong, rfl⟩

theorem Loads.classified (h : Loads loader path t outcome) :
    (∃ s, outcome = .ok s) ∨
      (∃ f detail, outcome = .error f ∧
        f.report = .diagnostic ⟨.config, detail, .source none none⟩) ∨
      ∃ f m, outcome = .error f ∧ f.report = .mishap m := by
  cases h with
  | defaults | turned => exact .inl ⟨_, rfl⟩
  | unreadable | malformed | notMapping => exact .inr (.inl ⟨_, _, rfl, rfl⟩)
  | nullCharacter | undecodable | refused => exact .inr (.inr ⟨_, _, rfl, rfl⟩)
  | misfit hfile hload hmisfit =>
      rcases hmisfit.report_eq with ⟨detail, hreport⟩ | ⟨n, -, -, hreport⟩
      · exact .inr (.inl ⟨_, _, rfl, hreport⟩)
      · exact .inr (.inr ⟨_, _, rfl, hreport⟩)

theorem ofFile_eq_ok_iff :
    ofFile loader path t = .ok s ↔
      ∃ text, t.Offers path text ∧
        ((loader text.unifyBreaks = .ok (.value (.scalar .null)) ∧ s = {}) ∨
          ∃ turns, loader text.unifyBreaks = .ok (.mapping (turns.map Switch.pair)) ∧
            s = after turns {}) := by
  rw [ofFile_eq_iff]
  constructor
  · intro h
    cases h with
    | defaults hfile hload => exact ⟨_, hfile, .inl ⟨hload, rfl⟩⟩
    | turned hfile hload => exact ⟨_, hfile, .inr ⟨_, hload, rfl⟩⟩
  · rintro ⟨text, hfile, ⟨hload, rfl⟩ | ⟨turns, hload, rfl⟩⟩
    · exact .defaults hfile hload
    · exact .turned hfile hload

theorem mishap_of_ofFile_iff {m : Mishap} :
    (∃ f, ofFile loader path t = .error f ∧ f.report = .mishap m) ↔
      Unreported loader path t m := by
  simp only [ofFile_eq_iff]
  constructor
  · rintro ⟨f, h, hreport⟩
    cases h with
    | nullCharacter hnull =>
        cases hreport
        exact .nullCharacter hnull
    | undecodable hplain hbytes hdecode =>
        cases hreport
        refine .undecodable hplain hbytes ?_ hdecode
        rintro text rfl
        rw [Text.Utf8.decode_encode] at hdecode
        cases hdecode
    | refused hfile hload =>
        cases hreport
        exact .refused hfile hload
    | misfit hfile hload hmisfit =>
        rcases hmisfit.report_eq with ⟨detail, hdetail⟩ | ⟨n, rfl, hlong, hnumber⟩
        · rw [hdetail] at hreport
          cases hreport
        · rw [hnumber] at hreport
          cases hreport
          exact .longKey hfile hload hlong
    | unreadable | malformed | notMapping => cases hreport
  · intro h
    cases h with
    | nullCharacter hnull => exact ⟨_, .nullCharacter hnull, rfl⟩
    | undecodable hplain hbytes hnone hdecode => exact ⟨_, .undecodable hplain hbytes hdecode, rfl⟩
    | refused hfile hload => exact ⟨_, .refused hfile hload, rfl⟩
    | longKey hfile hload hlong =>
        refine ⟨_, .misfit hfile hload (.unknownKey (by rintro switch ⟨⟩)), ?_⟩
        rw [text?_eq_none_iff.mpr ⟨_, rfl, hlong⟩]
        rfl

/-- Whatever the loader of documents is, loading settings from any path of any file tree gives
settings, a diagnostic of configurations, or a mishap. It gives settings if the file holds an empty
document or a mapping that does nothing but turn switches, and mishaps have the listed causes. -/
theorem ofFile_outcome (loader : Loader) (path : Text) (t : Files.Tree) :
    ((∃ s, ofFile loader path t = .ok s) ∨
      (∃ f detail, ofFile loader path t = .error f ∧
        f.report = .diagnostic ⟨.config, detail, .source none none⟩) ∨
      ∃ f m, ofFile loader path t = .error f ∧ f.report = .mishap m) ∧
    (∀ s, ofFile loader path t = .ok s ↔
      ∃ text, t.Offers path text ∧
        ((loader text.unifyBreaks = .ok (.value (.scalar .null)) ∧ s = {}) ∨
          ∃ turns, loader text.unifyBreaks = .ok (.mapping (turns.map Switch.pair)) ∧
            s = after turns {})) ∧
    ∀ m, (∃ f, ofFile loader path t = .error f ∧ f.report = .mishap m) ↔
      Unreported loader path t m :=
  ⟨(loads_ofFile loader path t).classified, fun _ => ofFile_eq_ok_iff,
    fun _ => mishap_of_ofFile_iff⟩

/-- A tree of one file, `c`. -/
def fileTree (bytes : List UInt8) : Files.Tree :=
  ⟨[([], .directory), (["c".toList], .file bytes)], []⟩

theorem fileTree_offers (text : Text) :
    (fileTree (Text.Utf8.encode text)).Offers "c".toList text := ⟨by decide, by rfl⟩

theorem ofFile_outcome_standard :
    let outcome (text : String) :=
      ofFile Yaml.standard "c".toList (fileTree (Text.Utf8.encode text.toList))
    (outcome "verbose: true").toOption = some { verbose := true } ∧
      ∃ f, outcome "verbose: !!bool maybe" = .error f ∧
        f.report = .mishap (.refused .key "'maybe'".toList) := by
  intro outcome
  have hload : Yaml.standard (Text.unifyBreaks "verbose: !!bool maybe".toList) =
      .error (.raised .key "'maybe'".toList) := by
    have hfault : (match Yaml.standard (Text.unifyBreaks "verbose: !!bool maybe".toList) with
        | .ok _ => none
        | .error e => some e) = some (.raised .key "'maybe'".toList) := by decide +kernel
    split at hfault
    · cases hfault
    · rename_i heq
      cases hfault
      exact heq
  exact ⟨by decide +kernel,
    ((ofFile_outcome _ _ _).2.2 _).mpr (.refused (fileTree_offers _) hload)⟩

/-- With no loader is a byte that starts no character reported. -/
theorem ofFile_undecodable_byte :
    ¬∃ loader : Loader, (∃ s, ofFile loader "c".toList (fileTree [0xFF]) = .ok s) ∨
      ∃ f d, ofFile loader "c".toList (fileTree [0xFF]) = .error f ∧ f.report = .diagnostic d := by
  rintro ⟨loader, h⟩
  have hfile : ofFile loader "c".toList (fileTree [0xFF]) =
      .error (.undecodable ⟨0, 0, 0xFF, .start⟩) := by rfl
  rw [hfile] at h
  rcases h with ⟨s, hs⟩ | ⟨f, d, hf, hd⟩
  · cases hs
  · cases hf
    cases hd

end Settings

end LetterMachine
