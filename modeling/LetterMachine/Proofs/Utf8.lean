import LetterMachine.Source

namespace LetterMachine.Text

namespace Utf8

variable {position n : Nat} {done : Text} {rest : List UInt8} {p : Pending}

theorem toNat_ofNat {n : Nat} (hn : n < 256) : (UInt8.ofNat n).toNat = n := by
  rw [UInt8.toNat_ofNat']
  omega

theorem decodeFrom_ascii (hn : n < 128) :
    decodeFrom position done none (UInt8.ofNat n :: rest) =
      decodeFrom (position + 1) (Char.ofNat n :: done) none rest := by
  have hbyte := toNat_ofNat (show n < 256 by omega)
  rw [decodeFrom, hbyte, if_pos hn]

theorem decodeFrom_first (hlow : 128 ≤ n) (hhigh : n < 256)
    (hp : announce position (UInt8.ofNat n) = some p) :
    decodeFrom position done none (UInt8.ofNat n :: rest) =
      decodeFrom (position + 1) done (some p) rest := by
  have hbyte : ¬(UInt8.ofNat n).toNat < 128 := by
    rw [toNat_ofNat hhigh]
    omega
  rw [decodeFrom, if_neg hbyte, hp]

theorem decodeFrom_next (hn : n < 64) (hlow : p.low ≤ n + 128) (hhigh : n + 128 ≤ p.high) :
    decodeFrom position done (some p) (UInt8.ofNat (n + 128) :: rest) =
      if p.needed ≤ 1 then
        decodeFrom (position + 1) (Char.ofNat (p.bits * 64 + n) :: done) none rest
      else
        decodeFrom (position + 1) done
          (some ⟨p.first, p.byte, p.needed - 1, 0x80, 0xBF, p.bits * 64 + n⟩) rest := by
  have hbyte := toNat_ofNat (show n + 128 < 256 by omega)
  rw [decodeFrom, hbyte, if_pos ⟨hlow, hhigh⟩, Nat.add_sub_cancel]

theorem announce_two (hn : 2 ≤ n) (hlt : n < 32) :
    announce position (UInt8.ofNat (n + 192)) =
      some ⟨position, UInt8.ofNat (n + 192), 1, 0x80, 0xBF, n⟩ := by
  have hbyte := toNat_ofNat (show n + 192 < 256 by omega)
  simp only [announce, hbyte]
  rw [if_neg (by omega), if_pos (by omega), Nat.add_sub_cancel]

theorem announce_three (hlt : n < 16) :
    announce position (UInt8.ofNat (n + 224)) =
      some ⟨position, UInt8.ofNat (n + 224), 2, if n = 0 then 0xA0 else 0x80,
        if n = 13 then 0x9F else 0xBF, n⟩ := by
  have hbyte := toNat_ofNat (show n + 224 < 256 by omega)
  have hzero : n + 224 = 0xE0 ↔ n = 0 := by omega
  have hlast : n + 224 = 0xED ↔ n = 13 := by omega
  simp only [announce, hbyte, hzero, hlast]
  rw [if_neg (by omega), if_neg (by omega), if_pos (by omega), Nat.add_sub_cancel]

theorem announce_four (hlt : n < 5) :
    announce position (UInt8.ofNat (n + 240)) =
      some ⟨position, UInt8.ofNat (n + 240), 3, if n = 0 then 0x90 else 0x80,
        if n = 4 then 0x8F else 0xBF, n⟩ := by
  have hbyte := toNat_ofNat (show n + 240 < 256 by omega)
  have hzero : n + 240 = 0xF0 ↔ n = 0 := by omega
  have hlast : n + 240 = 0xF4 ↔ n = 4 := by omega
  simp only [announce, hbyte, hzero, hlast]
  rw [if_neg (by omega), if_neg (by omega), if_neg (by omega), if_pos (by omega),
    Nat.add_sub_cancel]

variable {v : Nat}

theorem decodeFrom_two (hlow : 0x80 ≤ v) (hhigh : v < 0x800) :
    decodeFrom position done none
        (UInt8.ofNat (v / 64 % 32 + 192) :: UInt8.ofNat (v % 64 + 128) :: rest) =
      decodeFrom (position + 2) (Char.ofNat v :: done) none rest := by
  have hhead : v / 64 % 32 = v / 64 := by omega
  have hbits : v / 64 * 64 + v % 64 = v := by omega
  rw [hhead, decodeFrom_first (by omega) (by omega) (announce_two (by omega) (by omega)),
    decodeFrom_next (by omega) (by dsimp only; omega) (by dsimp only; omega)]
  dsimp only
  rw [if_pos (by decide), hbits]

theorem decodeFrom_three (hlow : 0x800 ≤ v) (hhigh : v < 0x10000)
    (hvalid : v < 0xD800 ∨ 0xDFFF < v) :
    decodeFrom position done none (UInt8.ofNat (v / 4096 % 16 + 224) ::
        UInt8.ofNat (v / 64 % 64 + 128) :: UInt8.ofNat (v % 64 + 128) :: rest) =
      decodeFrom (position + 3) (Char.ofNat v :: done) none rest := by
  have hhead : v / 4096 % 16 = v / 4096 := by omega
  have hbits : (v / 4096 * 64 + v / 64 % 64) * 64 + v % 64 = v := by omega
  rw [hhead, decodeFrom_first (by omega) (by omega) (announce_three (by omega)),
    decodeFrom_next (by omega) (by dsimp only; split <;> omega) (by dsimp only; split <;> omega)]
  dsimp only
  rw [if_neg (by decide),
    decodeFrom_next (by omega) (by dsimp only; omega) (by dsimp only; omega)]
  dsimp only
  rw [if_pos (by decide), hbits]

theorem decodeFrom_four (hlow : 0x10000 ≤ v) (hhigh : v < 0x110000) :
    decodeFrom position done none (UInt8.ofNat (v / 262144 % 8 + 240) ::
        UInt8.ofNat (v / 4096 % 64 + 128) :: UInt8.ofNat (v / 64 % 64 + 128) ::
        UInt8.ofNat (v % 64 + 128) :: rest) =
      decodeFrom (position + 4) (Char.ofNat v :: done) none rest := by
  have hhead : v / 262144 % 8 = v / 262144 := by omega
  have hbits : ((v / 262144 * 64 + v / 4096 % 64) * 64 + v / 64 % 64) * 64 + v % 64 = v := by omega
  rw [hhead, decodeFrom_first (by omega) (by omega) (announce_four (by omega)),
    decodeFrom_next (by omega) (by dsimp only; split <;> omega) (by dsimp only; split <;> omega)]
  dsimp only
  rw [if_neg (by decide),
    decodeFrom_next (by omega) (by dsimp only; omega) (by dsimp only; omega)]
  dsimp only
  rw [if_neg (by decide),
    decodeFrom_next (by omega) (by dsimp only; omega) (by dsimp only; omega)]
  dsimp only
  rw [if_pos (by decide), hbits]

theorem decodeFrom_char (position : Nat) (done : Text) (c : Char) (rest : List UInt8) :
    ∃ position', decodeFrom position done none (String.utf8EncodeChar c ++ rest) =
      decodeFrom position' (c :: done) none rest := by
  have hvalid : c.val.toNat < 0xD800 ∨ 0xDFFF < c.val.toNat ∧ c.val.toNat < 0x110000 := c.valid
  have hchar : Char.ofNat c.val.toNat = c := Char.ofNat_toNat c
  unfold String.utf8EncodeChar
  dsimp only
  generalize c.val.toNat = v at hvalid hchar ⊢
  subst hchar
  split
  · exact ⟨_, decodeFrom_ascii (by omega)⟩
  · split
    · exact ⟨_, decodeFrom_two (by omega) (by omega)⟩
    · split
      · exact ⟨_, decodeFrom_three (by omega) (by omega) (by omega)⟩
      · exact ⟨_, decodeFrom_four (by omega) (by omega)⟩

theorem decodeFrom_encode (position : Nat) (done t : Text) :
    decodeFrom position done none (encode t) = .ok (done.reverse ++ t) := by
  induction t generalizing position done with
  | nil =>
      rw [List.append_nil]
      rfl
  | cons c t ih =>
      obtain ⟨position', hchar⟩ := decodeFrom_char position done c (encode t)
      change decodeFrom position done none (String.utf8EncodeChar c ++ encode t) = _
      rw [hchar, ih, List.reverse_cons, List.append_assoc, List.singleton_append]

theorem decode_encode (t : Text) : decode (encode t) = .ok t := decodeFrom_encode 0 [] t

variable {first : Nat} {bytes : List UInt8} {t : Text}

theorem toNat_ofNat_of_valid (h : v < 0xD800 ∨ 0xDFFF < v ∧ v < 0x110000) :
    (Char.ofNat v).val.toNat = v := by
  have hvalid : v.isValidChar := h
  rw [Char.ofNat, dif_pos hvalid]
  rfl

theorem utf8EncodeChar_ofNat (h : v < 0xD800 ∨ 0xDFFF < v ∧ v < 0x110000) :
    String.utf8EncodeChar (Char.ofNat v) =
      if v < 0x80 then [UInt8.ofNat v]
      else if v < 0x800 then [UInt8.ofNat (v / 64 % 32 + 192), UInt8.ofNat (v % 64 + 128)]
      else if v < 0x10000 then
        [UInt8.ofNat (v / 4096 % 16 + 224), UInt8.ofNat (v / 64 % 64 + 128),
          UInt8.ofNat (v % 64 + 128)]
      else
        [UInt8.ofNat (v / 262144 % 8 + 240), UInt8.ofNat (v / 4096 % 64 + 128),
          UInt8.ofNat (v / 64 % 64 + 128), UInt8.ofNat (v % 64 + 128)] := by
  unfold String.utf8EncodeChar
  dsimp only
  rw [toNat_ofNat_of_valid h]
  simp only [Nat.lt_succ_iff]

theorem eq_ofNat_sub {b : UInt8} {n : Nat} (h : n ≤ b.toNat) :
    b = UInt8.ofNat (b.toNat - n + n) := by
  rw [Nat.sub_add_cancel h, UInt8.ofNat_toNat]

theorem announce_eq_some {b : UInt8} (h : announce position b = some p) :
    (∃ m, 2 ≤ m ∧ m < 32 ∧ b = UInt8.ofNat (m + 192)) ∨
      (∃ m, m < 16 ∧ b = UInt8.ofNat (m + 224)) ∨ ∃ m, m < 5 ∧ b = UInt8.ofNat (m + 240) := by
  simp only [announce] at h
  split at h
  · cases h
  · split at h
    · exact .inl ⟨b.toNat - 192, by omega, by omega, eq_ofNat_sub (by omega)⟩
    · split at h
      · exact .inr (.inl ⟨b.toNat - 224, by omega, eq_ofNat_sub (by omega)⟩)
      · split at h
        · exact .inr (.inr ⟨b.toNat - 240, by omega, eq_ofNat_sub (by omega)⟩)
        · cases h

theorem exists_next_of_decodeFrom (hlow : 128 ≤ p.low) (hhigh : p.high < 192)
    (h : decodeFrom position done (some p) bytes = .ok t) :
    ∃ n rest, bytes = UInt8.ofNat (n + 128) :: rest ∧ n < 64 ∧ p.low ≤ n + 128 ∧
      n + 128 ≤ p.high := by
  rcases bytes with _ | ⟨b, rest⟩
  · cases h
  · by_cases hb : p.low ≤ b.toNat ∧ b.toNat ≤ p.high
    · exact ⟨b.toNat - 128, rest, by rw [← eq_ofNat_sub (by omega)], by omega, by omega, by omega⟩
    · rw [decodeFrom, if_neg hb] at h
      cases h

theorem exists_char_two {m : Nat} (hlow : 2 ≤ m) (hlt : m < 32)
    (h : decodeFrom position done
      (some ⟨first, UInt8.ofNat (m + 192), 1, 0x80, 0xBF, m⟩) bytes = .ok t) :
    ∃ c rest, UInt8.ofNat (m + 192) :: bytes = String.utf8EncodeChar c ++ rest := by
  obtain ⟨n, rest, rfl, hn, -, -⟩ :=
    exists_next_of_decodeFrom (by dsimp only; omega) (by dsimp only; omega) h
  have hhead : (m * 64 + n) / 64 % 32 = m := by omega
  have hlast : (m * 64 + n) % 64 = n := by omega
  refine ⟨Char.ofNat (m * 64 + n), rest, ?_⟩
  rw [utf8EncodeChar_ofNat (by omega), if_neg (by omega), if_pos (by omega), hhead, hlast]
  rfl

theorem exists_char_three {m : Nat} (hlt : m < 16)
    (h : decodeFrom position done (some ⟨first, UInt8.ofNat (m + 224), 2,
      if m = 0 then 0xA0 else 0x80, if m = 13 then 0x9F else 0xBF, m⟩) bytes = .ok t) :
    ∃ c rest, UInt8.ofNat (m + 224) :: bytes = String.utf8EncodeChar c ++ rest := by
  obtain ⟨n, bytes, rfl, hn, hmin, hmax⟩ :=
    exists_next_of_decodeFrom (by dsimp only; split <;> omega) (by dsimp only; split <;> omega) h
  rw [decodeFrom_next hn hmin hmax, if_neg (by dsimp only; omega)] at h
  obtain ⟨k, rest, rfl, hk, -, -⟩ :=
    exists_next_of_decodeFrom (by dsimp only; omega) (by dsimp only; omega) h
  have hleast : m = 0 → 32 ≤ n := by
    rintro rfl
    dsimp only at hmin
    rw [if_pos rfl] at hmin
    omega
  have hmost : m = 13 → n < 32 := by
    rintro rfl
    dsimp only at hmax
    rw [if_pos rfl] at hmax
    omega
  have hhead : ((m * 64 + n) * 64 + k) / 4096 % 16 = m := by omega
  have hnext : ((m * 64 + n) * 64 + k) / 64 % 64 = n := by omega
  have hlast : ((m * 64 + n) * 64 + k) % 64 = k := by omega
  refine ⟨Char.ofNat ((m * 64 + n) * 64 + k), rest, ?_⟩
  rw [utf8EncodeChar_ofNat (by omega), if_neg (by omega), if_neg (by omega), if_pos (by omega),
    hhead, hnext, hlast]
  rfl

theorem exists_char_four {m : Nat} (hlt : m < 5)
    (h : decodeFrom position done (some ⟨first, UInt8.ofNat (m + 240), 3,
      if m = 0 then 0x90 else 0x80, if m = 4 then 0x8F else 0xBF, m⟩) bytes = .ok t) :
    ∃ c rest, UInt8.ofNat (m + 240) :: bytes = String.utf8EncodeChar c ++ rest := by
  obtain ⟨n, bytes, rfl, hn, hmin, hmax⟩ :=
    exists_next_of_decodeFrom (by dsimp only; split <;> omega) (by dsimp only; split <;> omega) h
  rw [decodeFrom_next hn hmin hmax, if_neg (by dsimp only; omega)] at h
  obtain ⟨k, bytes, rfl, hk, hkmin, hkmax⟩ :=
    exists_next_of_decodeFrom (by dsimp only; omega) (by dsimp only; omega) h
  rw [decodeFrom_next hk hkmin hkmax, if_neg (by dsimp only; omega)] at h
  obtain ⟨l, rest, rfl, hl, -, -⟩ :=
    exists_next_of_decodeFrom (by dsimp only; omega) (by dsimp only; omega) h
  have hleast : m = 0 → 16 ≤ n := by
    rintro rfl
    dsimp only at hmin
    rw [if_pos rfl] at hmin
    omega
  have hmost : m = 4 → n < 16 := by
    rintro rfl
    dsimp only at hmax
    rw [if_pos rfl] at hmax
    omega
  generalize hv : ((m * 64 + n) * 64 + k) * 64 + l = v
  have hhead : v / 262144 % 8 = m := by omega
  have hnext : v / 4096 % 64 = n := by omega
  have hthird : v / 64 % 64 = k := by omega
  have hlast : v % 64 = l := by omega
  refine ⟨Char.ofNat v, rest, ?_⟩
  rw [utf8EncodeChar_ofNat (by omega), if_neg (by omega), if_neg (by omega), if_neg (by omega),
    hhead, hnext, hthird, hlast]
  rfl

/-- Bytes that can be read start with those of a character. -/
theorem exists_char_of_decodeFrom {b : UInt8}
    (h : decodeFrom position done none (b :: bytes) = .ok t) :
    ∃ c rest, b :: bytes = String.utf8EncodeChar c ++ rest := by
  by_cases hascii : b.toNat < 0x80
  · refine ⟨Char.ofNat b.toNat, bytes, ?_⟩
    rw [utf8EncodeChar_ofNat (by omega), if_pos hascii, UInt8.ofNat_toNat]
    rfl
  · rw [decodeFrom, if_neg hascii] at h
    cases hannounce : announce position b with
    | none =>
        rw [hannounce] at h
        cases h
    | some p =>
        rw [hannounce] at h
        rcases announce_eq_some hannounce with ⟨m, hlow, hlt, rfl⟩ | ⟨m, hlt, rfl⟩ | ⟨m, hlt, rfl⟩
        · rw [announce_two hlow hlt] at hannounce
          cases hannounce
          exact exists_char_two hlow hlt h
        · rw [announce_three hlt] at hannounce
          cases hannounce
          exact exists_char_three hlt h
        · rw [announce_four hlt] at hannounce
          cases hannounce
          exact exists_char_four hlt h

theorem decodeFrom_eq_ok (h : decodeFrom position done none bytes = .ok t) :
    ∃ s, t = done.reverse ++ s ∧ bytes = encode s := by
  induction hlength : bytes.length using Nat.strongRecOn generalizing bytes position done with
  | ind n ih =>
      rcases bytes with _ | ⟨b, bytes⟩
      · cases h
        exact ⟨[], (List.append_nil _).symm, rfl⟩
      · obtain ⟨c, rest, hbytes⟩ := exists_char_of_decodeFrom h
        obtain ⟨position', hchar⟩ := decodeFrom_char position done c rest
        rw [hbytes, hchar] at h
        have hshorter : rest.length < n := by
          have hne := String.length_utf8EncodeChar c
          have hsum := congrArg List.length hbytes
          rw [List.length_append] at hsum
          have := c.utf8Size_pos
          omega
        obtain ⟨s, rfl, rfl⟩ := ih rest.length hshorter h rfl
        refine ⟨c :: s, ?_, hbytes⟩
        rw [List.reverse_cons, List.append_assoc, List.singleton_append]

/-- Bytes are read as a text exactly if they are its encoding. -/
theorem decode_eq_ok_iff : decode bytes = .ok t ↔ bytes = encode t := by
  constructor
  · intro h
    obtain ⟨s, rfl, hbytes⟩ := decodeFrom_eq_ok h
    exact hbytes
  · rintro rfl
    exact decode_encode t

end Utf8

theorem unifyBreaks_eq_self {t : Text} (h : '\r' ∉ t) : unifyBreaks t = t := by
  induction t with
  | nil => rfl
  | cons c t ih =>
      rw [List.mem_cons, not_or] at h
      obtain ⟨hc, ht⟩ := h
      rw [unifyBreaks, ih ht, if_neg (Ne.symm hc)]
      rintro rest rfl
      exact absurd rfl hc

end Text

theorem Source.decode_encode (t : Text) :
    Source.decode (Text.Utf8.encode t) = .ok t.unifyBreaks := by
  rw [Source.decode, Text.Utf8.decode_encode, Except.map]

theorem Source.exists_of_decode {bytes : List UInt8} {text : Text}
    (h : Source.decode bytes = .ok text) :
    ∃ t, bytes = Text.Utf8.encode t ∧ text = t.unifyBreaks := by
  unfold Source.decode at h
  cases ht : Text.Utf8.decode bytes with
  | error f =>
      rw [ht] at h
      cases h
  | ok t =>
      rw [ht] at h
      cases h
      exact ⟨t, Text.Utf8.decode_eq_ok_iff.mp ht, rfl⟩

end LetterMachine
