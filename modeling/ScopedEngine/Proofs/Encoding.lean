/-
  ScopedEngine.Proofs.Encoding — texts and their bytes are one to one.

  The first byte of a character tells how many follow and what the second may be (`tailOf_two`,
  `tailOf_three`, `tailOf_four`). So the bytes of a character are read as that character whatever
  stands behind them (`parts_encodeChar`). The other way round, what a leading byte and the bytes
  after it are read as has just these bytes (`encodeChar_char2`, `encodeChar_char3`,
  `encodeChar_char4`), so a character that is read stood there with all of them (`parts_eq_char`).
  - `decode?_eq_some`: bytes are read as a text exactly if they are the bytes of that text.
-/

import Mathlib.Data.List.Basic
import ScopedEngine.Text.Utf8

namespace ScopedEngine.Utf8

variable {a b c d : UInt8} {x : Char} {s : Bytes} {t : Tail} {ps : List Part}

/-! ## Bytes after the first -/

theorem apart_of_lt (h : b.toNat < a.toNat) : ¬ a ≤ b ∧ a ≠ b := by
  refine ⟨by rw [UInt8.le_iff_toNat_le]; omega, ?_⟩
  rintro rfl
  omega

theorem not_lt_of_le (h : b.toNat ≤ a.toNat) : ¬ a < b := by
  rw [UInt8.lt_iff_toNat_lt]
  omega

theorem isTail_iff : isTail b = true ↔ 0x80 ≤ b.toNat ∧ b.toNat ≤ 0xBF := by
  simp [isTail, UInt8.le_iff_toNat_le]

theorem tailOf_two (h : 0xC2 ≤ a.toNat) (h' : a.toNat ≤ 0xDF) :
    tailOf a = some ⟨0x80, 0xBF, 0⟩ := by
  have h₂ : a ≤ 0xDF := by simpa [UInt8.le_iff_toNat_le] using h'
  have h₁ : ¬ a < 0xC2 := not_lt_of_le (by simpa using h)
  rw [tailOf, if_neg h₁, if_pos h₂]

/-- The second byte of three excludes overlong forms and surrogates. -/
theorem tailOf_three (h : 0xE0 ≤ a.toNat) (h' : a.toNat ≤ 0xEF) :
    ∃ lo hi, tailOf a = some ⟨lo, hi, 1⟩ ∧ ∀ b : UInt8, (lo ≤ b ∧ b ≤ hi ↔ 0x80 ≤ b.toNat ∧
      b.toNat ≤ 0xBF ∧ (a.toNat = 0xE0 → 0xA0 ≤ b.toNat) ∧ (a.toNat = 0xED → b.toNat ≤ 0x9F)) := by
  have h₁ : ¬ a < 0xC2 := not_lt_of_le (by simp; omega)
  have h₂ : ¬ a ≤ 0xDF := (apart_of_lt (by simp; omega)).1
  have h₃ : a ≤ 0xEF := by simpa [UInt8.le_iff_toNat_le] using h'
  rw [tailOf, if_neg h₁, if_neg h₂, if_pos h₃]
  simp only [← UInt8.toNat_inj, UInt8.le_iff_toNat_le, UInt8.reduceToNat]
  by_cases e : a.toNat = 0xE0
  · refine ⟨0xA0, 0xBF, if_pos e, fun b => ?_⟩
    simp only [UInt8.reduceToNat]
    omega
  by_cases e' : a.toNat = 0xED
  · refine ⟨0x80, 0x9F, by rw [if_neg e]; exact if_pos e', fun b => ?_⟩
    simp only [UInt8.reduceToNat]
    omega
  · refine ⟨0x80, 0xBF, by rw [if_neg e]; exact if_neg e', fun b => ?_⟩
    simp only [UInt8.reduceToNat]
    omega

/-- The second byte of four excludes overlong forms and numbers that are too large. -/
theorem tailOf_four (h : 0xF0 ≤ a.toNat) (h' : a.toNat ≤ 0xF4) :
    ∃ lo hi, tailOf a = some ⟨lo, hi, 2⟩ ∧ ∀ b : UInt8, (lo ≤ b ∧ b ≤ hi ↔ 0x80 ≤ b.toNat ∧
      b.toNat ≤ 0xBF ∧ (a.toNat = 0xF0 → 0x90 ≤ b.toNat) ∧ (a.toNat = 0xF4 → b.toNat ≤ 0x8F)) := by
  have h₁ : ¬ a < 0xC2 := not_lt_of_le (by simp; omega)
  have h₂ : ∀ m : UInt8, m.toNat ≤ 0xEF → ¬ a ≤ m ∧ a ≠ m := fun m hm => apart_of_lt (by omega)
  rw [tailOf, if_neg h₁, if_neg (h₂ _ (by decide)).1, if_neg (h₂ _ (by decide)).2,
    if_neg (h₂ _ (by decide)).2, if_neg (h₂ _ (by decide)).1]
  simp only [← UInt8.toNat_inj, UInt8.le_iff_toNat_le, UInt8.reduceToNat]
  by_cases e : a.toNat = 0xF0
  · refine ⟨0x90, 0xBF, if_pos e, fun b => ?_⟩
    simp only [UInt8.reduceToNat]
    omega
  by_cases e' : a.toNat = 0xF4
  · refine ⟨0x80, 0x8F, by rw [if_neg e, if_neg (by omega)]; exact if_pos e', fun b => ?_⟩
    simp only [UInt8.reduceToNat]
    omega
  · refine ⟨0x80, 0xBF, by rw [if_neg e]; exact if_pos (by omega), fun b => ?_⟩
    simp only [UInt8.reduceToNat]
    omega

theorem tailOf_eq_none (h : a.toNat < 0xC2 ∨ 0xF4 < a.toNat) : tailOf a = none := by
  unfold tailOf
  rcases h with h | h
  · have h₁ : a < 0xC2 := by simpa [UInt8.lt_iff_toNat_lt] using h
    rw [if_pos h₁]
  · have h₁ : ¬ a < 0xC2 := not_lt_of_le (by simp; omega)
    have hn : ∀ m : UInt8, m.toNat ≤ 0xF4 → ¬ a ≤ m ∧ a ≠ m := fun m hm => apart_of_lt (by omega)
    rw [if_neg h₁, if_neg (hn _ (by decide)).1, if_neg (hn _ (by decide)).2,
      if_neg (hn _ (by decide)).2, if_neg (hn _ (by decide)).1, if_neg (hn _ (by decide)).2,
      if_neg (hn _ (by decide)).1, if_neg (hn _ (by decide)).2]

/-! ## The bytes of a character -/

theorem encodeChar_one (h : a.toNat ≤ 0x7F) (hx : x.toNat = a.toNat) : encodeChar x = [a] := by
  have h₁ : x.val.toNat = a.toNat := hx
  simp only [encodeChar, String.utf8EncodeChar, h₁, if_pos h, UInt8.ofNat_toNat]

theorem encodeChar_two (h : 0x80 ≤ x.toNat) (h' : x.toNat ≤ 0x7FF)
    (ha : a.toNat = x.toNat / 0x40 + 0xC0) (hb : b.toNat = x.toNat % 0x40 + 0x80) :
    encodeChar x = [a, b] := by
  have h₁ : ¬ x.val.toNat ≤ 0x7F := by show ¬ x.toNat ≤ 0x7F; omega
  have h₂ : x.val.toNat ≤ 0x7FF := h'
  have ha' : x.val.toNat / 64 % 32 + 192 = a.toNat := by show x.toNat / 64 % 32 + 192 = _; omega
  have hb' : x.val.toNat % 64 + 128 = b.toNat := hb.symm
  simp only [encodeChar, String.utf8EncodeChar, if_neg h₁, if_pos h₂, ha', hb', UInt8.ofNat_toNat]

theorem encodeChar_three (h : 0x800 ≤ x.toNat) (h' : x.toNat ≤ 0xFFFF)
    (ha : a.toNat = x.toNat / 0x1000 + 0xE0) (hb : b.toNat = x.toNat / 0x40 % 0x40 + 0x80)
    (hc : c.toNat = x.toNat % 0x40 + 0x80) : encodeChar x = [a, b, c] := by
  have h₁ : ¬ x.val.toNat ≤ 0x7F := by show ¬ x.toNat ≤ 0x7F; omega
  have h₂ : ¬ x.val.toNat ≤ 0x7FF := by show ¬ x.toNat ≤ 0x7FF; omega
  have h₃ : x.val.toNat ≤ 0xFFFF := h'
  have ha' : x.val.toNat / 4096 % 16 + 224 = a.toNat := by show x.toNat / 4096 % 16 + 224 = _; omega
  have hb' : x.val.toNat / 64 % 64 + 128 = b.toNat := hb.symm
  have hc' : x.val.toNat % 64 + 128 = c.toNat := hc.symm
  simp only [encodeChar, String.utf8EncodeChar, if_neg h₁, if_neg h₂, if_pos h₃, ha', hb', hc',
    UInt8.ofNat_toNat]

theorem toNat_ofNat {n : Nat} (h : n.isValidChar) : (Char.ofNat n).toNat = n := by
  rw [Char.ofNat, dif_pos h]
  rfl

/-- A character has the number of no surrogate, and none that is too large. -/
theorem toNat_range (x : Char) : x.toNat < 0xD800 ∨ 0xDFFF < x.toNat ∧ x.toNat < 0x110000 := x.valid

theorem encodeChar_four (h : 0x10000 ≤ x.toNat)
    (ha : a.toNat = x.toNat / 0x40000 + 0xF0) (hb : b.toNat = x.toNat / 0x1000 % 0x40 + 0x80)
    (hc : c.toNat = x.toNat / 0x40 % 0x40 + 0x80) (hd : d.toNat = x.toNat % 0x40 + 0x80) :
    encodeChar x = [a, b, c, d] := by
  have hx := toNat_range x
  have h₁ : ¬ x.val.toNat ≤ 0x7F := by show ¬ x.toNat ≤ 0x7F; omega
  have h₂ : ¬ x.val.toNat ≤ 0x7FF := by show ¬ x.toNat ≤ 0x7FF; omega
  have h₃ : ¬ x.val.toNat ≤ 0xFFFF := by show ¬ x.toNat ≤ 0xFFFF; omega
  have ha' : x.val.toNat / 262144 % 8 + 240 = a.toNat := by
    show x.toNat / 262144 % 8 + 240 = _
    omega
  have hb' : x.val.toNat / 4096 % 64 + 128 = b.toNat := hb.symm
  have hc' : x.val.toNat / 64 % 64 + 128 = c.toNat := hc.symm
  have hd' : x.val.toNat % 64 + 128 = d.toNat := hd.symm
  simp only [encodeChar, String.utf8EncodeChar, if_neg h₁, if_neg h₂, if_neg h₃, ha', hb', hc', hd',
    UInt8.ofNat_toNat]

/-! ## The first part of a byte string -/

theorem not_lt_of_tailOf (ht : tailOf a = some t) : ¬ a < 0x80 := by
  intro h
  have : a.toNat < 0x80 := by simpa [UInt8.lt_iff_toNat_lt] using h
  rw [tailOf_eq_none (.inl (by omega))] at ht
  cases ht

theorem parts_one (h : a.toNat ≤ 0x7F) :
    parts (a :: s) = .char (Char.ofNat a.toNat) :: parts s := by
  have h₁ : a < 0x80 := by rw [UInt8.lt_iff_toNat_lt]; show a.toNat < 0x80; omega
  rw [parts, if_pos h₁]

theorem parts_two (ht : tailOf a = some t) (hm : t.more = 0) (hb : t.lo ≤ b ∧ b ≤ t.hi) :
    parts (a :: b :: s) = .char (char2 a b) :: parts s := by
  rw [parts, if_neg (not_lt_of_tailOf ht), ht]
  simp [hb, hm]

theorem parts_three (ht : tailOf a = some t) (hm : t.more = 1) (hb : t.lo ≤ b ∧ b ≤ t.hi)
    (hc : isTail c = true) : parts (a :: b :: c :: s) = .char (char3 a b c) :: parts s := by
  rw [parts, if_neg (not_lt_of_tailOf ht), ht]
  simp [hb, hc, hm]

theorem parts_four (ht : tailOf a = some t) (hm : t.more = 2) (hb : t.lo ≤ b ∧ b ≤ t.hi)
    (hc : isTail c = true) (hd : isTail d = true) :
    parts (a :: b :: c :: d :: s) = .char (char4 a b c d) :: parts s := by
  rw [parts, if_neg (not_lt_of_tailOf ht), ht]
  simp [hb, hc, hd, hm]

theorem exists_byte {n : Nat} (h : n < 0x100) : ∃ a : UInt8, a.toNat = n :=
  ⟨UInt8.ofNat n, UInt8.toNat_ofNat_of_lt' h⟩

theorem ofNat_eq (x : Char) {n : Nat} (h : n = x.toNat) : Char.ofNat n = x := by
  rw [h, Char.ofNat_toNat]

/-- A character is read back from its bytes, whatever follows them. -/
theorem parts_encodeChar (x : Char) (s : Bytes) :
    parts (encodeChar x ++ s) = .char x :: parts s := by
  have hx := toNat_range x
  rcases Nat.lt_or_ge x.toNat 0x80 with h₁ | h₁
  · obtain ⟨a, ha⟩ := exists_byte (n := x.toNat) (by omega)
    rw [encodeChar_one (by omega) ha.symm, List.singleton_append, parts_one (by omega), ha,
      Char.ofNat_toNat]
  rcases Nat.lt_or_ge x.toNat 0x800 with h₂ | h₂
  · obtain ⟨a, ha⟩ := exists_byte (n := x.toNat / 0x40 + 0xC0) (by omega)
    obtain ⟨b, hb⟩ := exists_byte (n := x.toNat % 0x40 + 0x80) (by omega)
    have ht := tailOf_two (a := a) (by omega) (by omega)
    have hb' : (0x80 : UInt8) ≤ b ∧ b ≤ 0xBF := by
      simpa [isTail] using (isTail_iff (b := b)).mpr (by omega)
    have h : char2 a b = x := ofNat_eq x (by omega)
    rw [encodeChar_two (by omega) (by omega) ha hb, List.cons_append, List.singleton_append,
      parts_two ht rfl hb', h]
  rcases Nat.lt_or_ge x.toNat 0x10000 with h₃ | h₃
  · obtain ⟨a, ha⟩ := exists_byte (n := x.toNat / 0x1000 + 0xE0) (by omega)
    obtain ⟨b, hb⟩ := exists_byte (n := x.toNat / 0x40 % 0x40 + 0x80) (by omega)
    obtain ⟨c, hc⟩ := exists_byte (n := x.toNat % 0x40 + 0x80) (by omega)
    obtain ⟨lo, hi, ht, hbounds⟩ := tailOf_three (a := a) (by omega) (by omega)
    have h : char3 a b c = x := ofNat_eq x (by omega)
    rw [encodeChar_three (by omega) (by omega) ha hb hc]
    show parts (a :: b :: c :: s) = _
    rw [parts_three ht rfl ((hbounds b).mpr (by omega)) (isTail_iff.mpr (by omega)), h]
  · obtain ⟨a, ha⟩ := exists_byte (n := x.toNat / 0x40000 + 0xF0) (by omega)
    obtain ⟨b, hb⟩ := exists_byte (n := x.toNat / 0x1000 % 0x40 + 0x80) (by omega)
    obtain ⟨c, hc⟩ := exists_byte (n := x.toNat / 0x40 % 0x40 + 0x80) (by omega)
    obtain ⟨d, hd⟩ := exists_byte (n := x.toNat % 0x40 + 0x80) (by omega)
    obtain ⟨lo, hi, ht, hbounds⟩ := tailOf_four (a := a) (by omega) (by omega)
    have h : char4 a b c d = x := ofNat_eq x (by omega)
    rw [encodeChar_four (by omega) ha hb hc hd]
    show parts (a :: b :: c :: d :: s) = _
    rw [parts_four ht rfl ((hbounds b).mpr (by omega)) (isTail_iff.mpr (by omega))
      (isTail_iff.mpr (by omega)), h]

/-! ## The bytes that a character was read from -/

/-- All that a leading byte can be, with what the second byte may be. -/
theorem tailOf_cases (ht : tailOf a = some t) :
    (0xC2 ≤ a.toNat ∧ a.toNat ≤ 0xDF) ∧ t.more = 0 ∧
      (∀ b, t.lo ≤ b ∧ b ≤ t.hi → 0x80 ≤ b.toNat ∧ b.toNat ≤ 0xBF) ∨
    (0xE0 ≤ a.toNat ∧ a.toNat ≤ 0xEF) ∧ t.more = 1 ∧
      (∀ b, t.lo ≤ b ∧ b ≤ t.hi → 0x80 ≤ b.toNat ∧ b.toNat ≤ 0xBF ∧
        (a.toNat = 0xE0 → 0xA0 ≤ b.toNat) ∧ (a.toNat = 0xED → b.toNat ≤ 0x9F)) ∨
    (0xF0 ≤ a.toNat ∧ a.toNat ≤ 0xF4) ∧ t.more = 2 ∧
      (∀ b, t.lo ≤ b ∧ b ≤ t.hi → 0x80 ≤ b.toNat ∧ b.toNat ≤ 0xBF ∧
        (a.toNat = 0xF0 → 0x90 ≤ b.toNat) ∧ (a.toNat = 0xF4 → b.toNat ≤ 0x8F)) := by
  have ha : 0xC2 ≤ a.toNat ∧ a.toNat ≤ 0xF4 := by
    by_contra hn
    rw [tailOf_eq_none (by omega)] at ht
    cases ht
  rcases Nat.lt_or_ge a.toNat 0xE0 with h₂ | h₂
  · obtain rfl := Option.some.inj (ht.symm.trans (tailOf_two (by omega) (by omega)))
    refine .inl ⟨by omega, rfl, fun b hb => ?_⟩
    simpa only [UInt8.le_iff_toNat_le, UInt8.reduceToNat] using hb
  rcases Nat.lt_or_ge a.toNat 0xF0 with h₃ | h₃
  · obtain ⟨lo, hi, ht', hbounds⟩ := tailOf_three (a := a) (by omega) (by omega)
    obtain rfl := Option.some.inj (ht.symm.trans ht')
    exact .inr (.inl ⟨by omega, rfl, fun b => (hbounds b).mp⟩)
  · obtain ⟨lo, hi, ht', hbounds⟩ := tailOf_four (a := a) (by omega) (by omega)
    obtain rfl := Option.some.inj (ht.symm.trans ht')
    exact .inr (.inr ⟨by omega, rfl, fun b => (hbounds b).mp⟩)

theorem encodeChar_char2 (ha : 0xC2 ≤ a.toNat ∧ a.toNat ≤ 0xDF)
    (hb : 0x80 ≤ b.toNat ∧ b.toNat ≤ 0xBF) : encodeChar (char2 a b) = [a, b] := by
  have hx : (char2 a b).toNat = (a.toNat - 0xC0) * 0x40 + (b.toNat - 0x80) := by
    rw [char2, toNat_ofNat (.inl (by omega))]
  exact encodeChar_two (by omega) (by omega) (by omega) (by omega)

theorem encodeChar_char3 (ha : 0xE0 ≤ a.toNat ∧ a.toNat ≤ 0xEF)
    (hb : 0x80 ≤ b.toNat ∧ b.toNat ≤ 0xBF ∧
      (a.toNat = 0xE0 → 0xA0 ≤ b.toNat) ∧ (a.toNat = 0xED → b.toNat ≤ 0x9F))
    (hc : isTail c = true) : encodeChar (char3 a b c) = [a, b, c] := by
  have hc := isTail_iff.mp hc
  have hx : (char3 a b c).toNat =
      (a.toNat - 0xE0) * 0x1000 + (b.toNat - 0x80) * 0x40 + (c.toNat - 0x80) := by
    rw [char3, toNat_ofNat (by unfold Nat.isValidChar; omega)]
  exact encodeChar_three (by omega) (by omega) (by omega) (by omega) (by omega)

theorem encodeChar_char4 (ha : 0xF0 ≤ a.toNat ∧ a.toNat ≤ 0xF4)
    (hb : 0x80 ≤ b.toNat ∧ b.toNat ≤ 0xBF ∧
      (a.toNat = 0xF0 → 0x90 ≤ b.toNat) ∧ (a.toNat = 0xF4 → b.toNat ≤ 0x8F))
    (hc : isTail c = true) (hd : isTail d = true) :
    encodeChar (char4 a b c d) = [a, b, c, d] := by
  have hc := isTail_iff.mp hc
  have hd := isTail_iff.mp hd
  have hx : (char4 a b c d).toNat = (a.toNat - 0xF0) * 0x40000 + (b.toNat - 0x80) * 0x1000
      + (c.toNat - 0x80) * 0x40 + (d.toNat - 0x80) := by
    rw [char4, toNat_ofNat (by unfold Nat.isValidChar; omega)]
  exact encodeChar_four (by omega) (by omega) (by omega) (by omega) (by omega)

theorem parts_eq_char_two (ht : tailOf a = some t) (hm : t.more = 0) (hb : t.lo ≤ b ∧ b ≤ t.hi)
    (h : parts (a :: b :: s) = .char x :: ps) : x = char2 a b ∧ parts s = ps := by
  rw [parts_two ht hm hb] at h
  obtain ⟨hx, hps⟩ := List.cons.inj h
  exact ⟨(Part.char.inj hx).symm, hps⟩

/-- A character of more than two bytes has a third one. -/
theorem third_of_char (ht : tailOf a = some t) (hm : t.more ≠ 0) (hb : t.lo ≤ b ∧ b ≤ t.hi)
    (h : parts (a :: b :: s) = .char x :: ps) : ∃ c s', s = c :: s' ∧ isTail c = true := by
  rw [parts, if_neg (not_lt_of_tailOf ht), ht] at h
  cases s with
  | nil => simp [hb, hm] at h
  | cons c s =>
    cases hc : isTail c with
    | false => simp [hb, hm, hc] at h
    | true => exact ⟨c, s, rfl, hc⟩

/-- A character of four bytes has a fourth one. -/
theorem fourth_of_char (ht : tailOf a = some t) (hm : t.more = 2) (hb : t.lo ≤ b ∧ b ≤ t.hi)
    (hc : isTail c = true) (h : parts (a :: b :: c :: s) = .char x :: ps) :
    ∃ d s', s = d :: s' ∧ isTail d = true := by
  rw [parts, if_neg (not_lt_of_tailOf ht), ht] at h
  cases s with
  | nil => simp [hb, hm, hc] at h
  | cons d s =>
    cases hd : isTail d with
    | false => simp [hb, hm, hc, hd] at h
    | true => exact ⟨d, s, rfl, hd⟩

theorem parts_eq_char_three (ht : tailOf a = some t) (hm : t.more = 1) (hb : t.lo ≤ b ∧ b ≤ t.hi)
    (h : parts (a :: b :: s) = .char x :: ps) :
    ∃ c s', s = c :: s' ∧ isTail c = true ∧ x = char3 a b c ∧ parts s' = ps := by
  obtain ⟨c, s', rfl, hc⟩ := third_of_char ht (by rw [hm]; decide) hb h
  rw [parts_three ht hm hb hc] at h
  obtain ⟨hx, hps⟩ := List.cons.inj h
  exact ⟨c, s', rfl, hc, (Part.char.inj hx).symm, hps⟩

theorem parts_eq_char_four (ht : tailOf a = some t) (hm : t.more = 2) (hb : t.lo ≤ b ∧ b ≤ t.hi)
    (h : parts (a :: b :: s) = .char x :: ps) :
    ∃ c d s', s = c :: d :: s' ∧ isTail c = true ∧ isTail d = true ∧ x = char4 a b c d ∧
      parts s' = ps := by
  obtain ⟨c, s', rfl, hc⟩ := third_of_char ht (by rw [hm]; decide) hb h
  obtain ⟨d, s', rfl, hd⟩ := fourth_of_char ht hm hb hc h
  rw [parts_four ht hm hb hc hd] at h
  obtain ⟨hx, hps⟩ := List.cons.inj h
  exact ⟨c, d, s', rfl, hc, hd, (Part.char.inj hx).symm, hps⟩

/-- After a leading byte and one that may follow it. -/
theorem parts_eq_char_tail (ht : tailOf a = some t) (hb : t.lo ≤ b ∧ b ≤ t.hi)
    (h : parts (a :: b :: s) = .char x :: ps) :
    ∃ s', a :: b :: s = encodeChar x ++ s' ∧ parts s' = ps := by
  rcases tailOf_cases ht with ⟨ha, hm, hbounds⟩ | ⟨ha, hm, hbounds⟩ | ⟨ha, hm, hbounds⟩
  · obtain ⟨hx, hps⟩ := parts_eq_char_two ht hm hb h
    refine ⟨s, ?_, hps⟩
    rw [hx, encodeChar_char2 ha (hbounds b hb)]
    rfl
  · obtain ⟨c, s', hs, hc, hx, hps⟩ := parts_eq_char_three ht hm hb h
    refine ⟨s', ?_, hps⟩
    rw [hs, hx, encodeChar_char3 ha (hbounds b hb) hc]
    rfl
  · obtain ⟨c, d, s', hs, hc, hd, hx, hps⟩ := parts_eq_char_four ht hm hb h
    refine ⟨s', ?_, hps⟩
    rw [hs, hx, encodeChar_char4 ha (hbounds b hb) hc hd]
    rfl

/-- A character that comes first stands there with all its bytes. -/
theorem parts_eq_char {b : Bytes} (h : parts b = .char x :: ps) :
    ∃ s, b = encodeChar x ++ s ∧ parts s = ps := by
  cases b with
  | nil =>
    rw [parts] at h
    cases h
  | cons a s =>
    by_cases ha : a.toNat ≤ 0x7F
    · rw [parts_one ha] at h
      obtain ⟨hx, hps⟩ := List.cons.inj h
      have hx : x.toNat = a.toNat := by
        rw [← Part.char.inj hx, toNat_ofNat (.inl (by omega))]
      exact ⟨s, by rw [encodeChar_one ha hx]; rfl, hps⟩
    have ha' : ¬ a < 0x80 := not_lt_of_le (by show 0x80 ≤ a.toNat; omega)
    cases ht : tailOf a with
    | none =>
      rw [parts, if_neg ha', ht] at h
      cases h
    | some t =>
      cases s with
      | nil =>
        rw [parts, if_neg ha', ht] at h
        cases h
      | cons b s =>
        by_cases hb : t.lo ≤ b ∧ b ≤ t.hi
        · exact parts_eq_char_tail ht hb h
        · have hout : (!(decide (t.lo ≤ b) && decide (b ≤ t.hi))) = true := by
            rw [← Bool.decide_and, decide_eq_false hb, Bool.not_false]
          rw [parts, if_neg ha', ht] at h
          dsimp only at h
          rw [if_pos hout] at h
          cases h

/-! ## Texts and their bytes -/

theorem encode_cons (x : Char) (cs : List Char) : encode (x :: cs) = encodeChar x ++ encode cs := by
  rw [encode, encode, List.flatMap_cons]

theorem parts_encode (cs : List Char) : parts (encode cs) = cs.map .char := by
  induction cs with
  | nil => rfl
  | cons x cs ih => rw [encode_cons, parts_encodeChar, ih, List.map_cons]

theorem parts_ne_nil (a : UInt8) (s : Bytes) : parts (a :: s) ≠ [] := by
  unfold parts
  repeat' split
  all_goals exact List.cons_ne_nil _ _

theorem eq_encode_of_parts {b : Bytes} {cs : List Char} (h : parts b = cs.map .char) :
    b = encode cs := by
  induction cs generalizing b with
  | nil =>
    cases b with
    | nil => rfl
    | cons a s => exact absurd h (parts_ne_nil a s)
  | cons x cs ih =>
    obtain ⟨s, rfl, hs⟩ := parts_eq_char h
    rw [encode_cons, ih hs]

theorem mapM_char? {ps : List Part} {cs : List Char} :
    ps.mapM Part.char? = some cs ↔ ps = cs.map .char := by
  constructor
  · intro h
    induction ps generalizing cs with
    | nil =>
      obtain rfl : [] = cs := by simpa using h
      rfl
    | cons p ps ih =>
      rw [List.mapM_cons] at h
      obtain ⟨x, hx, h⟩ := Option.bind_eq_some_iff.mp h
      obtain ⟨ds, hds, h⟩ := Option.bind_eq_some_iff.mp h
      obtain rfl := Option.some.inj h
      cases p with
      | broken bytes => cases hx
      | char y => rw [List.map_cons, ← ih hds, Option.some.inj hx]
  · rintro rfl
    induction cs with
    | nil => rfl
    | cons x cs ih =>
      rw [List.map_cons, List.mapM_cons, ih]
      rfl

/-- Bytes are read as a text exactly if they are the bytes of that text. -/
theorem decode?_eq_some {b : Bytes} {cs : List Char} : decode? b = some cs ↔ b = encode cs := by
  rw [decode?, mapM_char?]
  constructor
  · exact eq_encode_of_parts
  · rintro rfl
    exact parts_encode cs

/-- A text with a NUL has a NUL among its bytes. -/
theorem zero_mem_encode {cs : List Char} (h : '\x00' ∈ cs) : (0 : UInt8) ∈ encode cs :=
  List.mem_flatMap.mpr ⟨'\x00', h, by decide⟩

/-- Only the byte of a NUL is zero: the bytes of a longer character all have their first bit set. -/
theorem zero_mem_encodeChar (h : (0 : UInt8) ∈ encodeChar x) : x.toNat = 0 := by
  have hbyte : ∀ n : Nat, (0 : UInt8) = UInt8.ofNat n → n % 256 = 0 := by
    intro n hn
    simpa using (congrArg UInt8.toNat hn).symm
  unfold encodeChar String.utf8EncodeChar at h
  simp only at h
  split at h
  · next hx =>
    have hx' : x.toNat ≤ 0x7F := hx
    have hn : x.toNat % 256 = 0 := hbyte _ (List.mem_singleton.mp h)
    omega
  · exfalso
    split at h
    · rcases List.mem_pair.mp h with h | h
      all_goals
        have := hbyte _ h
        omega
    · split at h
      · simp only [List.mem_cons, List.not_mem_nil, or_false] at h
        rcases h with h | h | h
        all_goals
          have := hbyte _ h
          omega
      · simp only [List.mem_cons, List.not_mem_nil, or_false] at h
        rcases h with h | h | h | h
        all_goals
          have := hbyte _ h
          omega

theorem nul_mem_of_zero_mem_encode {cs : List Char} (h : (0 : UInt8) ∈ encode cs) :
    '\x00' ∈ cs := by
  obtain ⟨x, hx, h⟩ := List.mem_flatMap.mp h
  have hnul : x = '\x00' := Char.toNat_inj.mp (zero_mem_encodeChar h)
  exact hnul ▸ hx

end ScopedEngine.Utf8
