/-
  ScopedEngine.Proofs.Quoting — what JSON writes between quotes is read back between quotes.

  Inside a line the reader of double quotes keeps what it has read as text and a run of blanks
  (`Draft.shown`); each character, written as JSON writes it, adds itself to that
  (`doubleQuoted_escape`). Main results, for texts of characters that YAML carries:
  - `doubleQuoted_string`: the text up to the closing quote is the text that was written.
  - `kept_string`, `ofChars?_kept`: nothing that is written so is refused or changed before it is
    read.
-/

import Mathlib.Data.List.Basic
import ScopedEngine.Config.Json
import ScopedEngine.Yaml.Token.Flow

namespace ScopedEngine.Yaml

open Config

variable {m : Mark} {d : Draft} {c e x : Char} {s rest : List Char}

/-! ## Places on a line -/

/-- The place after a text without line breaks. -/
def Mark.over (m : Mark) (t : List Char) : Mark := t.foldl Mark.next m

namespace Mark

@[simp]
theorem over_nil (m : Mark) : m.over [] = m := rfl

@[simp]
theorem over_cons (m : Mark) (c : Char) (t : List Char) : m.over (c :: t) = (m.next c).over t := rfl

theorem over_append (m : Mark) (t u : List Char) : m.over (t ++ u) = (m.over t).over u :=
  List.foldl_append

theorem advance_two (hc : c.utf8Size = 1) (he : e.utf8Size = 1) :
    m.advance 2 = (m.next c).next e := by
  simp [advance, next, hc, he]

end Mark

/-! ## Characters -/

/-- A character that YAML carries between quotes. -/
def Carried (c : Char) : Prop :=
  (c.toNat < 0x7F ∨ 0x9F < c.toNat) ∧ c.toNat ∉ [0x2028, 0x2029, 0xFEFF, 0xFFFE, 0xFFFF]

instance : DecidablePred Carried := fun c =>
  inferInstanceAs (Decidable ((c.toNat < 0x7F ∨ 0x9F < c.toNat) ∧
    c.toNat ∉ [0x2028, 0x2029, 0xFEFF, 0xFFFE, 0xFFFF]))

theorem carried_of_all {t : List Char} (h : t.all (fun c => decide (Carried c)) = true) :
    ∀ c ∈ t, Carried c := fun c hc => of_decide_eq_true (List.all_eq_true.mp h c hc)

/-- What has been read so far, with the blanks since. -/
def Draft.shown (d : Draft) : List Char := (d.gap.text ++ d.text).reverse

/-- A draft within a line, between two characters. -/
structure Draft.Open (d : Draft) : Prop where
  code : d.code = none
  gap : d.gap.isLines = false

theorem Draft.push_open (d : Draft) (c : Char) : (d.push c).Open := ⟨rfl, rfl⟩

theorem Draft.shown_push (d : Draft) (c : Char) : (d.push c).shown = d.shown ++ [c] := by
  simp [push, shown, Gap.text]

theorem Draft.blank_open (h : d.Open) (c : Char) : (d.blank c).Open := by
  refine ⟨h.code, ?_⟩
  have hg := h.gap
  cases hgap : d.gap with
  | lines first more =>
    rw [hgap] at hg
    cases hg
  | _ => simp [blank, hgap, Gap.blank, Gap.isLines]

theorem Draft.shown_blank (h : d.Open) (c : Char) : (d.blank c).shown = d.shown ++ [c] := by
  have hg := h.gap
  cases hgap : d.gap with
  | lines first more =>
    rw [hgap] at hg
    cases hg
  | _ => simp [blank, shown, hgap, Gap.blank, Gap.text]

theorem doubleQuoted_close (h : d.Open) (hm : 0 < m.column) :
    doubleQuoted ('"' :: rest) m d = .ok (d.shown, ⟨rest, m.next '"'⟩) := by
  have hcol : m.column ≠ 0 := by omega
  rw [doubleQuoted.eq_def]
  simp only [h.code]
  simp [isBlank, isBreak, hcol, Draft.settle, Draft.shown]

theorem doubleQuoted_blank (h : d.Open) (hc : isBlank c = true) :
    doubleQuoted (c :: rest) m d = doubleQuoted rest (m.next c) (d.blank c) := by
  rw [doubleQuoted.eq_def]
  simp only [h.code]
  simp [hc]

theorem doubleQuoted_plain (h : d.Open) (hm : 0 < m.column) (hblank : isBlank c = false)
    (hbreak : isBreak c = false) (hquote : c ≠ '"') (hback : c ≠ '\\') :
    doubleQuoted (c :: rest) m d = doubleQuoted rest (m.next c) (d.push c) := by
  have hcol : m.column ≠ 0 := by omega
  rw [doubleQuoted.eq_def]
  simp only [h.code]
  simp [hblank, hbreak, hcol, hquote, hback]

theorem doubleQuoted_named (h : d.Open) (hm : 0 < m.column) (he : escape? e = some (.char x))
    (hbreak : isBreak e = false) (hsize : e.utf8Size = 1) :
    doubleQuoted ('\\' :: e :: rest) m d =
      doubleQuoted rest (m.over ['\\', e]) (d.push x) := by
  have hcol : m.column ≠ 0 := by omega
  have hadv : m.advance 2 = m.over ['\\', e] := Mark.advance_two (by decide) hsize
  rw [doubleQuoted.eq_def]
  simp only [h.code]
  simp [isBlank, show isBreak '\\' = false from rfl, hbreak, hcol, he, hadv]

/-! ## Numbered escapes -/

theorem doubleQuoted_digit {k v h : Nat} (hcode : d.code = some (k, v))
    (hc : Text.hexValue? c = some h) (hk : 1 < k) :
    doubleQuoted (c :: rest) m d =
      doubleQuoted rest (m.next c) { d with code := some (k - 1, v * 16 + h) } := by
  have hk' : ¬ k ≤ 1 := by omega
  rw [doubleQuoted.eq_def]
  simp only [hcode, hc, if_neg hk']

theorem doubleQuoted_last_digit {v h : Nat} (hcode : d.code = some (1, v))
    (hc : Text.hexValue? c = some h) (hx : charOf? (v * 16 + h) = some x) :
    doubleQuoted (c :: rest) m d = doubleQuoted rest (m.next c) (d.push x) := by
  rw [doubleQuoted.eq_def]
  simp [hcode, hc, hx]

theorem doubleQuoted_number (h : d.Open) (hm : 0 < m.column) :
    doubleQuoted ('\\' :: 'u' :: rest) m d =
      doubleQuoted rest (m.over ['\\', 'u']) { d.settle with code := some (4, 0) } := by
  have hcol : m.column ≠ 0 := by omega
  have hadv : m.advance 2 = m.over ['\\', 'u'] := Mark.advance_two (by decide) (by decide)
  rw [doubleQuoted.eq_def]
  simp only [h.code]
  simp [isBlank, show isBreak '\\' = false from rfl, show isBreak 'u' = false from rfl, hcol,
    show escape? 'u' = some (.code 4) from rfl, hadv]

theorem hexValue?_hexDigit : ∀ n < 16, Text.hexValue? (Json.hexDigit n) = some n := by
  decide

theorem charOf?_toNat (c : Char) : charOf? c.toNat = some c := by
  have hv : c.toNat.isValidChar := c.valid
  rw [charOf?, if_pos hv, Char.ofNat_toNat]

/-- Four digits, of which two are zeros. -/
theorem doubleQuoted_control (h : d.Open) (hm : 0 < m.column) (hc : c.toNat < 0x20) :
    doubleQuoted (['\\', 'u', '0', '0', Json.hexDigit (c.toNat / 16),
        Json.hexDigit (c.toNat % 16)] ++ rest) m d =
      doubleQuoted rest (m.over ['\\', 'u', '0', '0', Json.hexDigit (c.toNat / 16),
        Json.hexDigit (c.toNat % 16)]) (d.push c) := by
  have hhigh := hexValue?_hexDigit (c.toNat / 16) (by omega)
  have hlow := hexValue?_hexDigit (c.toNat % 16) (by omega)
  have hzero : Text.hexValue? '0' = some 0 := by decide
  have hvalue :
      charOf? ((((0 * 16 + 0) * 16 + 0) * 16 + c.toNat / 16) * 16 + c.toNat % 16) = some c := by
    have he : (((0 * 16 + 0) * 16 + 0) * 16 + c.toNat / 16) * 16 + c.toNat % 16 = c.toNat := by
      omega
    rw [he, charOf?_toNat]
  simp only [List.cons_append, List.nil_append]
  rw [doubleQuoted_number h hm, doubleQuoted_digit rfl hzero (by omega),
    doubleQuoted_digit rfl hzero (by omega), doubleQuoted_digit rfl hhigh (by omega),
    doubleQuoted_last_digit rfl hlow hvalue]
  rfl

/-! ## A text between quotes -/

/-- What a written character is read as, whatever follows: itself. -/
def ReadsChar (m : Mark) (d : Draft) (t : List Char) (c : Char) : Prop :=
  ∃ d' : Draft, d'.Open ∧ d'.shown = d.shown ++ [c] ∧
    ∀ rest, doubleQuoted (t ++ rest) m d = doubleQuoted rest (m.over t) d'

theorem readsChar_push {t : List Char}
    (h : ∀ rest, doubleQuoted (t ++ rest) m d = doubleQuoted rest (m.over t) (d.push c)) :
    ReadsChar m d t c :=
  ⟨d.push c, d.push_open c, d.shown_push c, h⟩

/-- A character with a short name after a backslash. -/
structure Named (c e : Char) : Prop where
  named : escape? e = some (.char c)
  isBreak : isBreak e = false
  size : e.utf8Size = 1
  printable : 0x20 ≤ e.toNat ∧ e.toNat ≤ 0x7E

/-- The three ways in which a character is written. -/
theorem escape_cases (c : Char) :
    (∃ e, Json.escape c = ['\\', e] ∧ Named c e) ∨
    (c.toNat < 0x20 ∧ Json.escape c = ['\\', 'u', '0', '0', Json.hexDigit (c.toNat / 16),
      Json.hexDigit (c.toNat % 16)]) ∨
    (0x20 ≤ c.toNat ∧ c ≠ '"' ∧ c ≠ '\\' ∧ Json.escape c = [c]) := by
  unfold Json.escape
  split
  · next h => exact .inl ⟨'"', rfl, by rw [h]; rfl, rfl, rfl, by decide⟩
  split
  · next h => exact .inl ⟨'\\', rfl, by rw [h]; rfl, rfl, rfl, by decide⟩
  split
  · next h => exact .inl ⟨'b', rfl, by rw [h]; rfl, rfl, rfl, by decide⟩
  split
  · next h => exact .inl ⟨'f', rfl, by rw [h]; rfl, rfl, rfl, by decide⟩
  split
  · next h => exact .inl ⟨'n', rfl, by rw [h]; rfl, rfl, rfl, by decide⟩
  split
  · next h => exact .inl ⟨'r', rfl, by rw [h]; rfl, rfl, rfl, by decide⟩
  split
  · next h => exact .inl ⟨'t', rfl, by rw [h]; rfl, rfl, rfl, by decide⟩
  split
  · next h => exact .inr (.inl ⟨h, rfl⟩)
  · next hquote hback _ _ _ _ _ h => exact .inr (.inr ⟨by omega, hquote, hback, rfl⟩)

theorem isBreak_carried (hc : Carried c) (h : 0x20 ≤ c.toNat) : isBreak c = false := by
  have hlf : c ≠ '\n' := by
    rintro rfl
    exact absurd h (by decide)
  have hls : c ≠ '\u2028' := by
    rintro rfl
    exact hc.2 (by decide)
  have hps : c ≠ '\u2029' := by
    rintro rfl
    exact hc.2 (by decide)
  simp [isBreak, hlf, hls, hps]

theorem doubleQuoted_escape (h : d.Open) (hm : 0 < m.column) (hc : Carried c) :
    ReadsChar m d (Json.escape c) c := by
  rcases escape_cases c with ⟨e, hw, he⟩ | ⟨hcontrol, hw⟩ | ⟨hlow, hquote, hback, hw⟩
  · rw [hw]
    exact readsChar_push fun rest => doubleQuoted_named h hm he.named he.isBreak he.size
  · rw [hw]
    exact readsChar_push fun rest => doubleQuoted_control h hm hcontrol
  · rw [hw]
    by_cases hspace : isBlank c = true
    · exact ⟨d.blank c, Draft.blank_open h c, Draft.shown_blank h c,
        fun rest => doubleQuoted_blank h hspace⟩
    · exact readsChar_push fun rest =>
        doubleQuoted_plain h hm (by simpa using hspace) (isBreak_carried hc hlow) hquote hback

theorem Mark.over_column (m : Mark) (t : List Char) : (m.over t).column = m.column + t.length := by
  induction t generalizing m with
  | nil => rfl
  | cons c t ih =>
    rw [over_cons, ih, List.length_cons]
    show m.column + 1 + t.length = m.column + (t.length + 1)
    omega

theorem doubleQuoted_text (h : d.Open) (hm : 0 < m.column) (hs : ∀ c ∈ s, Carried c) :
    doubleQuoted (s.flatMap Json.escape ++ '"' :: rest) m d =
      .ok (d.shown ++ s, ⟨rest, m.over (s.flatMap Json.escape ++ ['"'])⟩) := by
  induction s generalizing m d with
  | nil => simpa using doubleQuoted_close h hm
  | cons c s ih =>
    obtain ⟨hc, hs⟩ := List.forall_mem_cons.mp hs
    obtain ⟨d', h', hshown, hread⟩ := doubleQuoted_escape h hm hc
    have hm' : 0 < (m.over (Json.escape c)).column := by
      rw [Mark.over_column]
      omega
    rw [List.flatMap_cons, List.append_assoc, hread, ih h' hm' hs, hshown, List.append_assoc,
      List.append_assoc, Mark.over_append _ (Json.escape c), List.singleton_append]

/-- A text as JSON writes it is read up to its closing quote as that text. -/
theorem doubleQuoted_string (m : Mark) (hs : ∀ c ∈ s, Carried c) (rest : List Char) :
    doubleQuoted (s.flatMap Json.escape ++ '"' :: rest) (m.next '"') .empty =
      .ok (s, ⟨rest, m.over (Json.string s)⟩) :=
  doubleQuoted_text ⟨rfl, rfl⟩ (Nat.succ_pos _) hs

/-! ## The characters of a JSON text -/

/-- A character that a text may hold and that stays as it is. -/
structure Kept (c : Char) : Prop where
  allowed : Source.isAllowed c = true
  cr : c ≠ '\r'
  nel : c ≠ '\u0085'

theorem unifyBreaks_kept (h : ∀ c ∈ s, Kept c) : Source.unifyBreaks s = s := by
  induction s with
  | nil => rfl
  | cons c s ih =>
    obtain ⟨hc, hs⟩ := List.forall_mem_cons.mp h
    have hcr := hc.cr
    rw [Source.unifyBreaks]
    · simp [hc.cr, hc.nel, ih hs]
    · intro t hct
      exact absurd hct hcr

theorem ofChars?_kept (h : ∀ c ∈ s, Kept c) : Source.ofChars? s = .ok s := by
  have hall : s.all Source.isAllowed = true := List.all_eq_true.mpr fun c hc => (h c hc).allowed
  rw [Source.ofChars?, if_pos hall, unifyBreaks_kept h]

theorem kept_ascii (h : 0x20 ≤ c.toNat) (h' : c.toNat ≤ 0x7E) : Kept c := by
  refine ⟨?_, ?_, ?_⟩
  · simp [Source.isAllowed, h, h']
  · rintro rfl
    exact absurd h (by decide)
  · rintro rfl
    exact absurd h' (by decide)

theorem kept_carried (hc : Carried c) (h : 0x20 ≤ c.toNat) : Kept c := by
  obtain ⟨hrange, hnot⟩ := hc
  have hvalid : c.toNat < 0xD800 ∨ 0xDFFF < c.toNat ∧ c.toNat < 0x110000 := c.valid
  simp only [List.mem_cons, List.not_mem_nil, or_false, not_or] at hnot
  refine ⟨?_, ?_, ?_⟩
  · simp only [Source.isAllowed, Bool.or_eq_true, Bool.and_eq_true, decide_eq_true_eq]
    omega
  · rintro rfl
    exact absurd h (by decide)
  · rintro rfl
    exact absurd hrange (by decide)

theorem kept_hexDigit : ∀ n < 16, Kept (Json.hexDigit n) := by
  have hrange : ∀ n < 16, 0x20 ≤ (Json.hexDigit n).toNat ∧ (Json.hexDigit n).toNat ≤ 0x7E := by
    decide
  exact fun n hn => kept_ascii (hrange n hn).1 (hrange n hn).2

theorem kept_escape (hc : Carried c) : ∀ x ∈ Json.escape c, Kept x := by
  have hslash : Kept '\\' := kept_ascii (by decide) (by decide)
  rcases escape_cases c with ⟨e, hw, he⟩ | ⟨hcontrol, hw⟩ | ⟨hlow, -, -, hw⟩
  · rw [hw]
    simpa using ⟨hslash, kept_ascii he.printable.1 he.printable.2⟩
  · have hhigh := kept_hexDigit (c.toNat / 16) (by omega)
    have hdigit := kept_hexDigit (c.toNat % 16) (by omega)
    rw [hw]
    simpa using ⟨hslash, kept_ascii (by decide) (by decide), kept_ascii (by decide) (by decide),
      hhigh, hdigit⟩
  · rw [hw]
    simpa using kept_carried hc hlow

theorem kept_string (hs : ∀ c ∈ s, Carried c) : ∀ x ∈ Json.string s, Kept x := by
  have hquote : Kept '"' := kept_ascii (by decide) (by decide)
  intro x hx
  simp only [Json.string, List.cons_append, List.mem_cons, List.mem_append, List.mem_flatMap,
    List.not_mem_nil, or_false] at hx
  rcases hx with rfl | ⟨c, hc, hx⟩ | rfl
  · exact hquote
  · exact kept_escape (hs c hc) x hx
  · exact hquote

end ScopedEngine.Yaml
