/-
  ScopedEngine.Proofs.Escaping — a list of texts is told from the text it is written as.

  A code is prefix-free if what it writes can be split off, whatever follows (`PrefixFree`). The
  escapes of characters are, for each of the three ways of writing one (`Spelling`) shows itself at
  once; a text between quotes is, because no escape begins with a quote; a list is, because no item
  begins with a bracket (`PrefixFree.runs`). What is written so is printable, so that a line ends
  only where the list ends it.

  Main result, for every two lists of arguments:
  - `argument_text_tells`: the texts are equal exactly if the lists read the same, and hold no
    control but the line feeds between the lines of the longer form.
-/

import Mathlib.Data.List.Basic
import ScopedEngine.Argv
import ScopedEngine.Proofs.Encoding

namespace ScopedEngine.Text

/-! ## Codes that can be split off -/

/-- Two written values with anything behind them are the same only if the values are, and what
    stands behind them is. -/
def PrefixFree {α : Type} (f : α → List Char) : Prop :=
  ∀ a b r s, f a ++ r = f b ++ s → a = b ∧ r = s

namespace PrefixFree

variable {α : Type} {f : α → List Char}

theorem injective (h : PrefixFree f) {a b : α} (hab : f a = f b) : a = b :=
  (h a b [] [] (by rw [hab])).1

theorem of_eq {g : α → List Char} (h : PrefixFree f) (hg : ∀ a, g a = f a) : PrefixFree g := by
  have hfun : g = f := funext hg
  rw [hfun]
  exact h

/-- Between the same two texts. -/
theorem framed (h : PrefixFree f) (before after : List Char) :
    PrefixFree fun a => before ++ f a ++ after := by
  intro a b r s hab
  simp only [List.append_assoc, List.append_cancel_left_eq] at hab
  obtain ⟨heq, hrest⟩ := h a b _ _ hab
  exact ⟨heq, List.append_cancel_left hrest⟩

/-- One after another, up to a character that none begins with. -/
theorem runs (h : PrefixFree f) (stop : Char) (hstop : ∀ a r s, f a ++ r ≠ stop :: s) :
    PrefixFree fun as : List α => as.flatMap f ++ [stop] := by
  intro as
  induction as with
  | nil =>
    intro bs r s hab
    cases bs with
    | nil => exact ⟨rfl, by simpa using hab⟩
    | cons b bs =>
      refine absurd hab.symm ?_
      simpa using hstop b _ r
  | cons a as ih =>
    intro bs r s hab
    cases bs with
    | nil =>
      refine absurd hab ?_
      simpa using hstop a _ s
    | cons b bs =>
      simp only [List.flatMap_cons, List.append_assoc] at hab
      obtain ⟨rfl, hrest⟩ := h a b _ _ hab
      obtain ⟨rfl, hrs⟩ := ih bs r s (by simpa using hrest)
      exact ⟨rfl, hrs⟩

/-- A pair of brackets, or what only begins like one. -/
theorem bracketed {g : List α → List Char} {body : α → List α → List Char}
    (hnil : g [] = ['[', ']']) (hcons : ∀ a as, g (a :: as) = '[' :: body a as)
    (hbody : ∀ a b as bs r s, body a as ++ r = body b bs ++ s → a :: as = b :: bs ∧ r = s)
    (hstop : ∀ a as r s, body a as ++ r ≠ ']' :: s) : PrefixFree g := by
  intro as bs r s h
  cases as with
  | nil =>
    cases bs with
    | nil => exact ⟨rfl, List.append_cancel_left h⟩
    | cons b bs =>
      rw [hnil, hcons] at h
      exact absurd (List.cons.inj h).2.symm (hstop b bs s _)
  | cons a as =>
    cases bs with
    | nil =>
      rw [hnil, hcons] at h
      exact absurd (List.cons.inj h).2 (hstop a as r _)
    | cons b bs =>
      rw [hcons, hcons] at h
      exact hbody a b as bs r s (List.cons.inj h).2

end PrefixFree

/-! ## Numbers -/

/-- The number of a text of digits in base 16. -/
def hexNumber (ds : List Char) : Nat := ds.foldl (fun n c => n * 16 + (hexValue? c).getD 0) 0

theorem hex_eq (n : Nat) :
    hex n = if n < 16 then [n.digitChar] else hex (n / 16) ++ [(n % 16).digitChar] :=
  Nat.toDigits_eq_if (by decide)

theorem hexValue?_digitChar : ∀ d < 16, hexValue? d.digitChar = some d := by decide

theorem hexNumber_hex (n : Nat) : hexNumber (hex n) = n := by
  induction n using Nat.strongRecOn with
  | ind n ih =>
    rw [hex_eq]
    by_cases hn : n < 16
    · simp [hn, hexNumber, hexValue?_digitChar n hn]
    · have hhigh : hexNumber (hex (n / 16)) = n / 16 := ih _ (by omega)
      have hlow : hexValue? (n % 16).digitChar = some (n % 16) := hexValue?_digitChar _ (by omega)
      rw [if_neg hn, hexNumber, List.foldl_append, ← hexNumber, hhigh]
      simp only [List.foldl_cons, List.foldl_nil, hlow, Option.getD_some]
      omega

theorem mem_hex {n : Nat} {c : Char} (h : c ∈ hex n) : ∃ d < 16, c = d.digitChar := by
  induction n using Nat.strongRecOn with
  | ind n ih =>
    rw [hex_eq] at h
    by_cases hn : n < 16
    · rw [if_pos hn] at h
      exact ⟨n, hn, List.mem_singleton.mp h⟩
    · rw [if_neg hn, List.mem_append] at h
      rcases h with h | h
      · exact ih _ (by omega) h
      · exact ⟨n % 16, by omega, List.mem_singleton.mp h⟩

/-- The digits up to the brace. -/
theorem takeWhile_hex (n : Nat) (r : List Char) :
    (hex n ++ '\x7d' :: r).takeWhile (· ≠ '\x7d') = hex n := by
  have hbrace : ∀ d < 16, d.digitChar ≠ '\x7d' := by decide
  have hall : ∀ c ∈ hex n, decide (c ≠ '\x7d') = true := by
    intro c hc
    obtain ⟨d, hd, rfl⟩ := mem_hex hc
    exact decide_eq_true (hbrace d hd)
  rw [List.takeWhile_append_of_pos hall]
  simp

theorem numberEscape_prefixFree : PrefixFree numberEscape := by
  intro m n r s h
  have hdigits : hex m ++ '\x7d' :: r = hex n ++ '\x7d' :: s := by simpa [numberEscape] using h
  have hsame : hex m = hex n := by rw [← takeWhile_hex m r, hdigits, takeWhile_hex]
  have hmn : m = n := by rw [← hexNumber_hex m, hsame, hexNumber_hex]
  subst hmn
  exact ⟨rfl, by simpa using hdigits⟩

namespace Quoted

/-! ## Characters -/

/-- The character that a letter behind a backslash stands for. -/
def short? : Char → Option Char
  | '"' => some '"'
  | '\\' => some '\\'
  | 'n' => some '\n'
  | 'r' => some '\r'
  | 't' => some '\t'
  | '0' => some '\x00'
  | _ => none

/-- The ways of writing a character. -/
inductive Spelling : Char → List Char → Prop
  | short {c e : Char} (h : short? e = some c) : Spelling c ['\\', e]
  | number (c : Char) : Spelling c (numberEscape c.toNat)
  | plain {c : Char} (hp : isPrintable c = true) (hq : c ≠ '"') (hb : c ≠ '\\') : Spelling c [c]

theorem spelling_escape (c : Char) : Spelling c (escape c) := by
  unfold escape
  split
  · next h => exact .short (by rw [h]; rfl)
  split
  · next h => exact .short (by rw [h]; rfl)
  split
  · next h => exact .short (by rw [h]; rfl)
  split
  · next h => exact .short (by rw [h]; rfl)
  split
  · next h => exact .short (by rw [h]; rfl)
  split
  · next h => exact .short (by rw [h]; rfl)
  split
  · exact .number c
  · next hq hb _ _ _ _ h =>
    simp only [Bool.or_eq_true, Bool.not_eq_true', not_or, Bool.not_eq_false] at h
    exact .plain h.2 hq hb

namespace Spelling

variable {c d : Char} {s t r u : List Char}

/-- The first two characters tell which way a character is written. -/
theorem splits (hs : Spelling c s) (ht : Spelling d t) (h : s ++ r = t ++ u) : c = d ∧ r = u := by
  have hletter : ∀ {e x : Char}, short? e = some x → e ≠ 'u' := by
    intro e x he hu
    rw [hu] at he
    cases he
  cases hs with
  | short he =>
    cases ht with
    | short he' =>
      simp only [List.cons_append, List.nil_append, List.cons.injEq, true_and] at h
      obtain ⟨rfl, rfl⟩ := h
      exact ⟨Option.some.inj (he.symm.trans he'), rfl⟩
    | number =>
      simp only [numberEscape, List.cons_append, List.nil_append, List.cons.injEq, true_and] at h
      exact absurd h.1 (hletter he)
    | plain hp hq hb =>
      simp only [List.cons_append, List.nil_append, List.cons.injEq] at h
      exact absurd h.1.symm hb
  | number =>
    cases ht with
    | short he =>
      simp only [numberEscape, List.cons_append, List.nil_append, List.cons.injEq, true_and] at h
      exact absurd h.1.symm (hletter he)
    | number =>
      obtain ⟨hn, hrest⟩ := numberEscape_prefixFree _ _ _ _ h
      exact ⟨Char.toNat_inj.mp hn, hrest⟩
    | plain hp hq hb =>
      simp only [numberEscape, List.cons_append, List.nil_append, List.cons.injEq] at h
      exact absurd h.1.symm hb
  | plain hp hq hb =>
    cases ht with
    | short he =>
      simp only [List.cons_append, List.nil_append, List.cons.injEq] at h
      exact absurd h.1 hb
    | number =>
      simp only [numberEscape, List.cons_append, List.nil_append, List.cons.injEq] at h
      exact absurd h.1 hb
    | plain hp' hq' hb' => exact List.cons.inj h

theorem ne_quote (hs : Spelling c s) : s ++ r ≠ '"' :: u := by
  intro h
  cases hs with
  | short he => simp at h
  | number => simp [numberEscape] at h
  | plain hp hq hb => exact hq (List.cons.inj h).1

theorem printable (hs : Spelling c s) : ∀ x ∈ s, isPrintable x = true := by
  intro x hx
  cases hs with
  | short he =>
    rcases List.mem_pair.mp hx with rfl | rfl
    · rfl
    · unfold short? at he
      split at he
      all_goals first | rfl | cases he
  | number =>
    simp only [numberEscape, List.mem_append, List.mem_cons, List.not_mem_nil, or_false] at hx
    rcases hx with ((rfl | rfl | rfl) | hx) | rfl
    · rfl
    · rfl
    · rfl
    · obtain ⟨d, hd, rfl⟩ := mem_hex hx
      exact (by decide : ∀ d < 16, isPrintable d.digitChar = true) d hd
    · rfl
  | plain hp hq hb =>
    rw [List.mem_singleton.mp hx]
    exact hp

end Spelling

theorem escape_prefixFree : PrefixFree escape :=
  fun c d _ _ h => (spelling_escape c).splits (spelling_escape d) h

/-! ## Texts -/

theorem ofChars_prefixFree : PrefixFree ofChars := by
  have hruns := escape_prefixFree.runs _ fun c _ _ => (spelling_escape c).ne_quote
  exact (hruns.framed ['"'] []).of_eq fun s => by simp [ofChars]

theorem printable_ofChars (s : List Char) : ∀ x ∈ ofChars s, isPrintable x = true := by
  intro x hx
  simp only [ofChars, List.cons_append, List.mem_cons, List.mem_append, List.mem_flatMap,
    List.not_mem_nil, or_false] at hx
  rcases hx with rfl | ⟨c, -, hx⟩ | rfl
  · rfl
  · exact (spelling_escape c).printable x hx
  · rfl

end Quoted

namespace Outline

/-! ## Lists of texts -/

/-- A list of texts between quotes. -/
def texts (ts : List (List Char)) : Outline := .list (ts.map fun t => .leaf (Quoted.ofChars t))

/-- A text as it follows another on one line. -/
def nextItem (t : List Char) : List Char := ", ".toList ++ Quoted.ofChars t

/-- A text on a line of its own. -/
def ownLine (t : List Char) : List Char := margin 1 ++ Quoted.ofChars t ++ [',']

theorem compactItems_texts (ts : List (List Char)) :
    compactItems (ts.map fun t => .leaf (Quoted.ofChars t)) = ts.flatMap nextItem := by
  induction ts with
  | nil => rfl
  | cons t ts ih => rw [List.map_cons, compactItems, compact, ih, List.flatMap_cons, nextItem]

theorem prettyItems_texts (ts : List (List Char)) :
    prettyItems 1 (ts.map fun t => .leaf (Quoted.ofChars t)) =
      ts.flatMap fun t => ownLine t ++ ['\n'] := by
  induction ts with
  | nil => rfl
  | cons t ts ih =>
    rw [List.map_cons, prettyItems, prettyAt, ih, List.flatMap_cons, ownLine]
    simp

theorem nextItem_prefixFree : PrefixFree nextItem :=
  (Quoted.ofChars_prefixFree.framed ", ".toList []).of_eq fun t => by simp [nextItem]

theorem ownLine_prefixFree : PrefixFree fun t => ownLine t ++ ['\n'] :=
  (Quoted.ofChars_prefixFree.framed (margin 1) [',', '\n']).of_eq fun t => by simp [ownLine]

theorem compact_texts_cons (t : List Char) (ts : List (List Char)) :
    (texts (t :: ts)).compact = '[' :: (Quoted.ofChars t ++ (ts.flatMap nextItem ++ [']'])) := by
  rw [texts, List.map_cons, compact, compact, compactItems_texts]
  simp

theorem pretty_texts_cons (t : List Char) (ts : List (List Char)) :
    (texts (t :: ts)).pretty =
      '[' :: '\n' :: ((t :: ts).flatMap (fun t => ownLine t ++ ['\n']) ++ [']']) := by
  have hitems := prettyItems_texts (t :: ts)
  rw [List.map_cons] at hitems
  rw [texts, List.map_cons, pretty, prettyAt, hitems]
  simp [margin]

theorem compact_texts_prefixFree : PrefixFree fun ts => (texts ts).compact := by
  have hitems := nextItem_prefixFree.runs ']' fun t r s => by simp [nextItem]
  refine PrefixFree.bracketed rfl compact_texts_cons ?_ fun t ts r s => by simp [Quoted.ofChars]
  intro t u ts us r s h
  rw [List.append_assoc (Quoted.ofChars t), List.append_assoc (Quoted.ofChars u)] at h
  obtain ⟨rfl, hrest⟩ := Quoted.ofChars_prefixFree _ _ _ _ h
  obtain ⟨rfl, hrs⟩ := hitems _ _ _ _ hrest
  exact ⟨rfl, hrs⟩

theorem pretty_texts_prefixFree : PrefixFree fun ts => (texts ts).pretty := by
  have hlines := ownLine_prefixFree.runs ']' fun t r s => by simp [ownLine, margin]
  refine PrefixFree.bracketed rfl pretty_texts_cons ?_ fun t ts r s => by simp
  intro t u ts us r s h
  exact hlines _ _ _ _ (List.cons.inj h).2

/-! ## Lines -/

/-- The lines of the longer form: one for each text, between two for the brackets. -/
def lines : List (List Char) → List (List Char)
  | [] => [['[', ']']]
  | t :: ts => ['['] :: ((t :: ts).map ownLine ++ [[']']])

theorem intercalate_lines (ts : List (List Char)) (last : List Char) :
    List.intercalate ['\n'] (ts.map ownLine ++ [last]) =
      ts.flatMap (fun t => ownLine t ++ ['\n']) ++ last := by
  induction ts with
  | nil => simp
  | cons t ts ih =>
    rw [List.map_cons, List.cons_append, List.intercalate_cons_of_ne_nil (by simp), ih,
      List.flatMap_cons, List.append_assoc _ _ last]

/-! ## What the forms hold -/

theorem printable_of_all {s : List Char} (h : s.all isPrintable = true) :
    ∀ c ∈ s, isPrintable c = true := List.all_eq_true.mp h

theorem printable_nextItem (t : List Char) : ∀ c ∈ nextItem t, isPrintable c = true := by
  intro c hc
  rcases List.mem_append.mp hc with hc | hc
  · exact printable_of_all (by rfl) c hc
  · exact Quoted.printable_ofChars t c hc

theorem printable_ownLine (t : List Char) : ∀ c ∈ ownLine t, isPrintable c = true := by
  intro c hc
  simp only [ownLine, List.mem_append, List.mem_singleton] at hc
  rcases hc with (hc | hc) | rfl
  · exact printable_of_all (by rfl) c hc
  · exact Quoted.printable_ofChars t c hc
  · rfl

theorem printable_compact_texts (ts : List (List Char)) :
    ∀ c ∈ (texts ts).compact, isPrintable c = true := by
  intro c hc
  cases ts with
  | nil => exact printable_of_all (by rfl) c hc
  | cons t ts =>
    simp only [compact_texts_cons, List.mem_cons, List.mem_append, List.mem_flatMap,
      List.not_mem_nil, or_false] at hc
    rcases hc with rfl | hc | ⟨u, -, hc⟩ | rfl
    · rfl
    · exact Quoted.printable_ofChars t c hc
    · exact printable_nextItem u c hc
    · rfl

theorem printable_pretty_texts (ts : List (List Char)) :
    ∀ c ∈ (texts ts).pretty, isPrintable c = true ∨ c = '\n' := by
  intro c hc
  cases ts with
  | nil => exact .inl (printable_of_all (by rfl) c hc)
  | cons t ts =>
    simp only [pretty_texts_cons, List.mem_cons, List.mem_append, List.mem_flatMap,
      List.not_mem_nil, or_false] at hc
    rcases hc with rfl | rfl | ⟨u, -, hc | rfl⟩ | rfl
    · exact .inl rfl
    · exact .inr rfl
    · exact .inl (printable_ownLine u c hc)
    · exact .inr rfl
    · exact .inl rfl

theorem printable_lines {ts : List (List Char)} {l : List Char} (hl : l ∈ lines ts) :
    ∀ c ∈ l, isPrintable c = true := by
  intro c hc
  cases ts with
  | nil =>
    rw [List.mem_singleton.mp hl] at hc
    exact printable_of_all (by rfl) c hc
  | cons t ts =>
    simp only [lines, List.mem_cons, List.mem_append, List.mem_map, List.not_mem_nil,
      or_false] at hl
    rcases hl with rfl | ⟨u, -, rfl⟩ | rfl
    · rw [List.mem_singleton.mp hc]
      rfl
    · exact printable_ownLine u c hc
    · rw [List.mem_singleton.mp hc]
      rfl

/-- A line ends only where the list ends it. -/
theorem splitOn_pretty_texts (ts : List (List Char)) :
    (texts ts).pretty.splitOn '\n' = lines ts := by
  have hjoined : (texts ts).pretty = List.intercalate ['\n'] (lines ts) := by
    cases ts with
    | nil => rfl
    | cons t ts =>
      rw [pretty_texts_cons, lines, List.intercalate_cons_of_ne_nil (by simp), intercalate_lines]
      simp
  rw [hjoined]
  refine List.splitOn_intercalate '\n' ?_ ?_
  · intro l hl hmem
    exact absurd (printable_lines hl _ hmem) (by decide)
  · cases ts with
    | nil => exact List.cons_ne_nil _ _
    | cons t ts => exact List.cons_ne_nil _ _

end Outline

end ScopedEngine.Text

namespace ScopedEngine

/-! ## Arguments -/

theorem isControl_of_printable {c : Char} (h : Text.isPrintable c = true) :
    Text.isControl c = false := by
  by_contra hc
  rw [Bool.not_eq_false] at hc
  rw [Text.not_isPrintable_of_isControl hc] at h
  cases h

theorem Utf8.lossy_encode (t : List Char) : Utf8.lossy (Utf8.encode t) = t := by
  rw [Utf8.lossy, Utf8.parts_encode, List.map_map]
  exact List.map_id t

namespace Argv

open Text

/-- Arguments that are text. -/
def AllText (args : List Bytes) : Prop := ∀ b ∈ args, ∃ t, b = Utf8.encode t

theorem encode_map_lossy {args : List Bytes} (h : AllText args) :
    (args.map Utf8.lossy).map Utf8.encode = args := by
  have hback : ∀ b ∈ args, Utf8.encode (Utf8.lossy b) = b := by
    intro b hb
    obtain ⟨t, rfl⟩ := h b hb
    rw [Utf8.lossy_encode]
  rw [List.map_map]
  exact (List.map_congr_left hback).trans (List.map_id args)

theorem map_lossy_inj {args args' : List Bytes} (h : AllText args) (h' : AllText args') :
    args.map Utf8.lossy = args'.map Utf8.lossy ↔ args = args' := by
  constructor
  · intro hsame
    rw [← encode_map_lossy h, hsame, encode_map_lossy h']
  · intro hsame
    rw [hsame]

theorem outline_ofList (args : List Bytes) :
    (ofList args).outline = Outline.texts (args.map Utf8.lossy) := by
  rw [outline, toList_ofList, Outline.texts, List.map_map]
  rfl

/-- The text of a list of arguments on one line. -/
def shown (args : List Bytes) : String := (ofList args).outline.compactString

/-- The text of a list of arguments with a line for each. -/
def shownInLines (args : List Bytes) : String := (ofList args).outline.prettyString

theorem shown_inj {args args' : List Bytes} :
    shown args = shown args' ↔ args.map Utf8.lossy = args'.map Utf8.lossy := by
  unfold shown Outline.compactString
  rw [outline_ofList, outline_ofList, String.ofList_inj]
  constructor
  · exact Outline.compact_texts_prefixFree.injective
  · intro h
    rw [h]

theorem shownInLines_inj {args args' : List Bytes} :
    shownInLines args = shownInLines args' ↔ args.map Utf8.lossy = args'.map Utf8.lossy := by
  unfold shownInLines Outline.prettyString
  rw [outline_ofList, outline_ofList, String.ofList_inj]
  constructor
  · exact Outline.pretty_texts_prefixFree.injective
  · intro h
    rw [h]

/-- Two lists of arguments have the same text exactly if they read the same, lossily, argument by
    argument; lists of texts, exactly if they are the same list. The text on one line holds no
    control. The text in lines holds none but line feeds, and these stand between its own lines, of
    which each argument has one. -/
theorem argument_text_tells :
    (∀ args args', (shown args = shown args' ↔ args.map Utf8.lossy = args'.map Utf8.lossy) ∧
      (shownInLines args = shownInLines args' ↔ args.map Utf8.lossy = args'.map Utf8.lossy)) ∧
    (∀ args args', AllText args → AllText args' →
      (shown args = shown args' ↔ args = args') ∧
      (shownInLines args = shownInLines args' ↔ args = args')) ∧
    ∀ args, (∀ c ∈ (shown args).toList, isControl c = false) ∧
      (∀ c ∈ (shownInLines args).toList, isControl c = true → c = '\n') ∧
      (shownInLines args).toList.splitOn '\n' = Outline.lines (args.map Utf8.lossy) := by
  refine ⟨fun args args' => ⟨shown_inj, shownInLines_inj⟩, ?_, ?_⟩
  · intro args args' h h'
    rw [shown_inj, shownInLines_inj, map_lossy_inj h h']
    exact ⟨Iff.rfl, Iff.rfl⟩
  · intro args
    unfold shown shownInLines Outline.compactString Outline.prettyString
    rw [outline_ofList, String.toList_ofList, String.toList_ofList]
    refine ⟨?_, ?_, Outline.splitOn_pretty_texts _⟩
    · intro c hc
      exact isControl_of_printable (Outline.printable_compact_texts _ c hc)
    · intro c hc hcontrol
      rcases Outline.printable_pretty_texts _ c hc with hp | hp
      · rw [isControl_of_printable hp] at hcontrol
        cases hcontrol
      · exact hp

/-- One argument that is written like two is not shown like them. -/
theorem quoted_argument_text_tells :
    let args := [Utf8.ofString "a\", \"b"]
    let args' := [Utf8.ofString "a", Utf8.ofString "b"]
    AllText args ∧ AllText args' ∧ shown args ≠ shown args' ∧
      shownInLines args ≠ shownInLines args' := by
  intro args args'
  have htext : ∀ ss : List String, AllText (ss.map Utf8.ofString) := by
    intro ss b hb
    obtain ⟨s, -, rfl⟩ := List.mem_map.mp hb
    exact ⟨s.toList, rfl⟩
  have h : AllText args := htext ["a\", \"b"]
  have h' : AllText args' := htext ["a", "b"]
  have hne : args ≠ args' := by decide
  obtain ⟨hline, hlines⟩ := argument_text_tells.2.1 args args' h h'
  exact ⟨h, h', mt hline.mp hne, mt hlines.mp hne⟩

/-- A control in an argument is written by its number, and a line break by its short name. -/
example : shown [[0x1b, 0x0a], [0xff]] = "[\"\\u\x7b1b\x7d\\n\", \"\ufffd\"]" := by decide +kernel

end Argv

end ScopedEngine
