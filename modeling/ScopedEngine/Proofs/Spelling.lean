/-
  ScopedEngine.Proofs.Spelling — what the spelling of a path can change, and what it cannot.

  Paths with the same components are spellings of one path: slashes and inner dots are added or
  left out. A spelling may fail where another leads to a file (a slash after the name of a file,
  too many bytes), but two that both lead to files lead to the same one.
  - `components_eq_iff`: components are what a path begins with and the pieces that are names.
  - `Files.find_same`: followed through a tree of files, spellings do not lead to different places.
  - `Linker.Follows`: a linker that opens files of a tree; it may search bare names as it likes.
    `Linker.Follows.opens_same`: two spellings that open an image open images alike.
-/

import Mathlib.Tactic.ByContra
import ScopedEngine.Process

namespace ScopedEngine

namespace Path

/-! ## Pieces -/

/-- A piece that names something: the others lead nowhere else. -/
def isName (s : Bytes) : Bool := s ≠ [] && s ≠ dot

theorem pieces_eq_splitOn (p : Bytes) : pieces p = p.splitOn slash := by
  induction p with
  | nil => rfl
  | cons b p ih =>
    obtain ⟨q, qs, hq⟩ := List.exists_cons_of_ne_nil (List.splitOnP_ne_nil (· == slash) p)
    rw [pieces, ih, List.splitOn, List.splitOn, List.splitOnP_cons_eq_if_modifyHead, hq]
    simp

theorem pieces_ne_nil (p : Bytes) : pieces p ≠ [] :=
  pieces_eq_splitOn p ▸ List.splitOnP_ne_nil _ p

theorem pieces_of_isBare {p : Bytes} (h : isBare p = true) : pieces p = [p] := by
  rw [pieces_eq_splitOn]
  exact List.splitOn_eq_singleton (by simpa [isBare] using h)

theorem pieces_slash (p : Bytes) : pieces (slash :: p) = [] :: pieces p := by
  obtain ⟨q, qs, hq⟩ := List.exists_cons_of_ne_nil (pieces_ne_nil p)
  rw [pieces, hq]
  simp

theorem pieces_cons {b : UInt8} (hb : b ≠ slash) {p q : Bytes} {qs : List Bytes}
    (hp : pieces p = q :: qs) : pieces (b :: p) = (b :: q) :: qs := by
  rw [pieces, hp]
  simp [hb]

/-- One piece more than there are slashes. -/
theorem length_pieces (p : Bytes) : (pieces p).length = p.count slash + 1 := by
  induction p with
  | nil => rfl
  | cons b p ih =>
    by_cases hb : b = slash
    · subst hb
      simp [pieces_slash, ih]
    · obtain ⟨q, qs, hq⟩ := List.exists_cons_of_ne_nil (pieces_ne_nil p)
      rw [pieces_cons hb hq, List.count_cons_of_ne hb, ← ih, hq]
      rfl

theorem mem_of_mem_pieces {p q : Bytes} (hq : q ∈ pieces p) {b : UInt8} (hb : b ∈ q) : b ∈ p := by
  induction p generalizing q with
  | nil =>
    obtain rfl : q = [] := by simpa [pieces] using hq
    cases hb
  | cons c p ih =>
    by_cases hc : c = slash
    · rw [hc, pieces_slash] at hq
      rcases List.mem_cons.mp hq with rfl | hq
      · cases hb
      · exact List.mem_cons_of_mem _ (ih hq hb)
    · obtain ⟨r, rs, hr⟩ := List.exists_cons_of_ne_nil (pieces_ne_nil p)
      rw [pieces_cons hc hr] at hq
      rcases List.mem_cons.mp hq with rfl | hq
      · rcases List.mem_cons.mp hb with rfl | hb
        · exact List.mem_cons_self
        · exact List.mem_cons_of_mem _ (ih (by rw [hr]; exact List.mem_cons_self) hb)
      · exact List.mem_cons_of_mem _ (ih (by rw [hr]; exact List.mem_cons_of_mem _ hq) hb)

theorem exists_pieces_of_not_isBare {p : Bytes} (h : isBare p = false) :
    ∃ q r rs, pieces p = q :: r :: rs := by
  have hp : slash ∈ p := by simpa [isBare] using h
  have hlen := length_pieces p
  have hpos := List.count_pos_iff.mpr hp
  match hq : pieces p with
  | [] => exact absurd hq (pieces_ne_nil p)
  | [q] =>
    rw [hq] at hlen
    simp at hlen
    omega
  | q :: r :: rs => exact ⟨q, r, rs, rfl⟩

/-- A relative path begins with more than a slash. -/
theorem head_ne_nil {p q : Bytes} {qs : List Bytes} (hp : p ≠ []) (hr : isAbsolute p = false)
    (hq : pieces p = q :: qs) : q ≠ [] := by
  cases p with
  | nil => exact absurd rfl hp
  | cons b p =>
    have hb : b ≠ slash := by simpa [isAbsolute] using hr
    obtain ⟨r, rs, hr⟩ := List.exists_cons_of_ne_nil (pieces_ne_nil p)
    rw [pieces_cons hb hr] at hq
    obtain ⟨rfl, -⟩ := List.cons.inj hq
    simp

/-- A byte at the end belongs to the last piece. -/
theorem pieces_concat {c : UInt8} (hc : c ≠ slash) {p l : Bytes} {qs : List Bytes}
    (hp : pieces p = qs ++ [l]) : pieces (p ++ [c]) = qs ++ [l ++ [c]] := by
  induction p generalizing l qs with
  | nil =>
    cases qs with
    | nil =>
      obtain rfl : [] = l := by simpa [pieces] using hp
      exact pieces_cons hc rfl
    | cons q qs => simp [pieces] at hp
  | cons b p ih =>
    by_cases hb : b = slash
    · subst hb
      rw [pieces_slash] at hp
      cases qs with
      | nil => exact absurd (List.cons.inj hp).2 (pieces_ne_nil p)
      | cons q qs =>
        obtain ⟨rfl, htail⟩ := List.cons.inj hp
        rw [List.cons_append, pieces_slash, ih htail]
        rfl
    · obtain ⟨r, rs, hr⟩ := List.exists_cons_of_ne_nil (pieces_ne_nil p)
      rw [pieces_cons hb hr] at hp
      cases qs with
      | nil =>
        obtain ⟨rfl, rfl⟩ := List.cons.inj hp
        have hlast : pieces (p ++ [c]) = [] ++ [r ++ [c]] := ih hr
        exact pieces_cons hb hlast
      | cons q qs =>
        obtain ⟨rfl, rfl⟩ := List.cons.inj hp
        have hlast : pieces (p ++ [c]) = r :: qs ++ [l ++ [c]] := ih hr
        exact pieces_cons hb hlast

/-! ## Components -/

/-- What a path begins with, before its names. -/
def lead (p : Bytes) : List Component :=
  if isAbsolute p then [.root] else if (pieces p).head? = some dot then [.current] else []

theorem components_eq (p : Bytes) :
    components p = lead p ++ ((pieces p).filter isName).map .name := by
  unfold components lead names
  split
  · rfl
  · split <;> rfl

theorem isAbsolute_iff {p : Bytes} : isAbsolute p = true ↔ lead p = [.root] := by
  unfold lead
  split
  · simp_all
  · split <;> simp_all

/-- Names and what stands before them do not mix. -/
theorem lead_names_inj {a b : Bytes} {u v : List Bytes}
    (h : lead a ++ u.map .name = lead b ++ v.map .name) : lead a = lead b ∧ u = v := by
  have hl : ∀ p, lead p = [] ∨ lead p = [.root] ∨ lead p = [.current] := fun p => by
    unfold lead
    split
    · exact .inr (.inl rfl)
    · split
      · exact .inr (.inr rfl)
      · exact .inl rfl
  have hinj : ∀ {u v : List Bytes}, u.map Component.name = v.map Component.name → u = v :=
    (List.map_inj_right fun _ _ h => Component.name.inj h).mp
  rcases hl a with ha | ha | ha <;> rcases hl b with hb | hb | hb <;> rw [ha, hb] at h ⊢
  all_goals first
    | exact ⟨rfl, hinj (by simpa using h)⟩
    | (exfalso; cases u <;> cases v <;> simp at h)

/-- Equal components: an equal beginning and equal names. -/
theorem components_eq_iff {a b : Bytes} : components a = components b ↔
    lead a = lead b ∧ (pieces a).filter isName = (pieces b).filter isName := by
  rw [components_eq, components_eq]
  exact ⟨lead_names_inj, fun ⟨hl, hn⟩ => by rw [hl, hn]⟩

theorem isAbsolute_congr {a b : Bytes} (h : lead a = lead b) : isAbsolute a = isAbsolute b := by
  rw [Bool.eq_iff_iff, isAbsolute_iff, isAbsolute_iff, h]

theorem lead_relative {p q : Bytes} {qs : List Bytes} (hr : isAbsolute p = false)
    (hq : pieces p = q :: qs) : lead p = if q = dot then [.current] else [] := by
  unfold lead
  simp [hr, hq]

/-- Only the empty path has no components. -/
theorem components_eq_nil_iff {p : Bytes} : components p = [] ↔ p = [] := by
  refine ⟨fun h => ?_, fun h => h ▸ rfl⟩
  by_contra hp
  rw [components_eq, List.append_eq_nil_iff] at h
  obtain ⟨hl, hn⟩ := h
  have hr : isAbsolute p = false := by
    by_contra ha
    rw [isAbsolute_iff.mp (by simpa using ha)] at hl
    cases hl
  obtain ⟨q, qs, hq⟩ := List.exists_cons_of_ne_nil (pieces_ne_nil p)
  have hne := head_ne_nil hp hr hq
  rw [lead_relative hr hq] at hl
  have hdot : q ≠ dot := by
    rintro rfl
    simp at hl
  simp [hq, isName, hne, hdot] at hn

/-! ## Bare names -/

theorem isRelative_of_isBare {p : Bytes} (h : isBare p = true) : isAbsolute p = false := by
  cases p with
  | nil => rfl
  | cons b p =>
    have hp : slash ∉ b :: p := by simpa [isBare] using h
    simpa [isAbsolute] using fun hb : b = slash => hp (hb ▸ List.mem_cons_self)

theorem lead_of_isBare {p : Bytes} (h : isBare p = true) :
    lead p = if p = dot then [.current] else [] :=
  lead_relative (isRelative_of_isBare h) (pieces_of_isBare h)

/-- A piece that is no name is empty or a dot. -/
theorem eq_of_not_isName {q : Bytes} (h : ¬ isName q = true) : q = [] ∨ q = dot := by
  by_contra hne
  exact h (by simpa [isName, not_or] using hne)

/-- A bare name has one spelling among the bare names. -/
theorem isBare_unique {a b : Bytes} (ha : isBare a = true) (hb : isBare b = true)
    (h : components a = components b) : a = b := by
  obtain ⟨hl, hn⟩ := components_eq_iff.mp h
  rw [lead_of_isBare ha, lead_of_isBare hb] at hl
  rw [pieces_of_isBare ha, pieces_of_isBare hb] at hn
  by_cases ha' : isName a = true
  · by_cases hb' : isName b = true
    · simpa [ha', hb'] using hn
    · simp [ha', hb'] at hn
  · by_cases hb' : isName b = true
    · simp [ha', hb'] at hn
    · -- Neither is a name: each is empty or a dot, which differ in their beginning.
      rcases eq_of_not_isName ha' with rfl | rfl <;> rcases eq_of_not_isName hb' with rfl | rfl
      · rfl
      · exact absurd hl (by decide)
      · exact absurd hl (by decide)
      · rfl

/-- No bare name is a spelling of a path that ends in a name and has a slash. -/
theorem not_isBare_of_components {a b l : Bytes} {qs : List Bytes} (hb : isBare b = false)
    (hp : pieces b = qs ++ [l]) (hl : isName l = true) (h : components a = components b) :
    isBare a = false := by
  by_contra ha
  have ha : isBare a = true := by simpa using ha
  obtain ⟨hlead, hn⟩ := components_eq_iff.mp h
  rw [pieces_of_isBare ha, hp, List.filter_append] at hn
  have hname : isName a = true := by
    by_contra hne
    simp [hne, hl] at hn
  have hqs : qs.filter isName = [] := by
    have hlen := congrArg List.length hn
    simp only [List.filter_cons, hname, hl, if_true, List.filter_nil, List.length_append,
      List.length_cons, List.length_nil] at hlen
    exact List.length_eq_zero_iff.mp (by omega)
  obtain ⟨q, r, rs, hqr⟩ := exists_pieces_of_not_isBare hb
  cases qs with
  | nil => simp [hp] at hqr
  | cons q' qs =>
    obtain ⟨rfl, -⟩ := List.cons.inj (hp.symm.trans hqr)
    have hq : ¬ isName q' = true := by
      intro hq
      simp [hq] at hqs
    -- The first piece is no name, so the path begins with a slash or a dot, and the name does not.
    have hadot : a ≠ dot := by
      rintro rfl
      simp [isName] at hname
    rw [lead_of_isBare ha, if_neg hadot] at hlead
    cases habs : isAbsolute b with
    | true =>
      rw [isAbsolute_iff.mp habs] at hlead
      cases hlead
    | false =>
      have hbne : b ≠ [] := by
        rintro rfl
        cases hb
      rw [lead_relative habs hqr] at hlead
      rcases eq_of_not_isName hq with rfl | rfl
      · exact head_ne_nil hbne habs hqr rfl
      · simp at hlead

/-! ## A NUL at the end -/

section Nul

variable {p l : Bytes} {qs : List Bytes}

theorem exists_pieces_concat (p : Bytes) : ∃ qs l, pieces p = qs ++ [l] :=
  ⟨_, _, (List.dropLast_concat_getLast (pieces_ne_nil p)).symm⟩

/-- A NUL at the end makes a name of the last piece. -/
theorem names_concat_nul (hp : pieces p = qs ++ [l]) :
    (pieces (p ++ [0])).filter isName = qs.filter isName ++ [l ++ [0]] := by
  have hl : isName (l ++ [0]) = true := by cases l <;> simp [isName, dot]
  rw [pieces_concat (by decide) hp, List.filter_append, List.filter_cons_of_pos hl]
  rfl

theorem isAbsolute_concat_nul (p : Bytes) : isAbsolute (p ++ [0]) = isAbsolute p := by
  cases p <;> rfl

theorem lead_concat_nul (hp : pieces p = qs ++ [l]) :
    lead (p ++ [0]) =
      if isAbsolute p then [.root] else if qs.head? = some dot then [.current] else [] := by
  have hl : l ++ [0] ≠ dot := by cases l <;> simp [dot]
  unfold lead
  rw [isAbsolute_concat_nul, pieces_concat (by decide) hp]
  cases qs with
  | nil => simp [hl]
  | cons q qs => rfl

/-- Before the last piece of a relative path there is a name, unless it begins with a dot. -/
theorem names_ne_nil {q : Bytes} (hr : isAbsolute p = false) (hp : pieces p = q :: qs ++ [l])
    (hq : q ≠ dot) : (q :: qs).filter isName ≠ [] := by
  have hne : p ≠ [] := by
    rintro rfl
    simp [pieces] at hp
  have hname : isName q = true := by simp [isName, hq, head_ne_nil hne hr hp]
  simp [hname]

end Nul

/-- A NUL at the end does not hide what the path is a spelling of. -/
theorem components_of_nul {a b : Bytes} (h : components (a ++ [0]) = components (b ++ [0])) :
    components a = components b := by
  obtain ⟨qs, l, ha⟩ := exists_pieces_concat a
  obtain ⟨rs, m, hb⟩ := exists_pieces_concat b
  obtain ⟨hl, hn⟩ := components_eq_iff.mp h
  have habs : isAbsolute a = isAbsolute b := by
    simpa only [isAbsolute_concat_nul] using isAbsolute_congr hl
  rw [lead_concat_nul ha, lead_concat_nul hb] at hl
  rw [names_concat_nul ha, names_concat_nul hb] at hn
  obtain ⟨hnames, hlast⟩ := List.append_inj' hn rfl
  obtain rfl : l = m := by simpa using hlast
  refine components_eq_iff.mpr ⟨?_, by rw [ha, hb, List.filter_append, List.filter_append, hnames]⟩
  cases hbb : isAbsolute b with
  | true => rw [isAbsolute_iff.mp (habs.trans hbb), isAbsolute_iff.mp hbb]
  | false =>
    have haa := habs.trans hbb
    simp only [haa, hbb, Bool.false_eq_true, if_false] at hl
    -- Neither has a name before the last piece where the other has none.
    cases qs with
    | nil =>
      cases rs with
      | nil => rw [lead_relative haa ha, lead_relative hbb hb]
      | cons r rs =>
        have hr : r ≠ dot := by
          rintro rfl
          simp at hl
        exact absurd hnames.symm (names_ne_nil hbb hb hr)
    | cons q qs =>
      cases rs with
      | nil =>
        have hq : q ≠ dot := by
          rintro rfl
          simp at hl
        exact absurd hnames (names_ne_nil haa ha hq)
      | cons r rs =>
        rw [lead_relative haa ha, lead_relative hbb hb]
        simpa using hl

/-- A path without a NUL is no spelling of one with a NUL at its end. -/
theorem components_ne_of_nul {a b : Bytes} (hb : 0 ∉ b) : components (a ++ [0]) ≠ components b := by
  intro h
  obtain ⟨qs, l, ha⟩ := exists_pieces_concat a
  obtain ⟨-, hn⟩ := components_eq_iff.mp h
  rw [names_concat_nul ha] at hn
  have hmem : l ++ [0] ∈ (pieces b).filter isName := by
    rw [← hn]
    simp
  exact hb (mem_of_mem_pieces (List.mem_filter.mp hmem).1 (by simp))

end Path

/-! ## Following a path -/

namespace Files

variable {trail : List Entry} {here : Entry} {r : List Entry × Entry}

/-- A name that is none stays in the directory. -/
theorem step_of_not_isName {q : Bytes} (hq : ¬ Path.isName q = true) (h : step trail here q = .ok r) :
    r = (trail, here) ∧ ∃ entries, here = .directory entries := by
  cases here with
  | directory entries =>
    have hq' : (q = [] || q = Path.dot) = true := by
      rcases Path.eq_of_not_isName hq with rfl | rfl <;> rfl
    simp only [step, hq', if_true] at h
    cases h
    exact ⟨rfl, entries, rfl⟩
  | file contents => cases h
  | image shown => cases h

theorem walk_cons {q : Bytes} {qs : List Bytes} (h : walk (q :: qs) trail here = .ok r) :
    ∃ s, step trail here q = .ok s ∧ walk qs s.1 s.2 = .ok r := by
  rw [walk] at h
  cases hs : step trail here q with
  | error e =>
    rw [hs] at h
    cases h
  | ok s =>
    rw [hs] at h
    exact ⟨s, rfl, h⟩

/-- Where a path leads it leads by its names alone. -/
theorem walk_names {qs : List Bytes} (h : walk qs trail here = .ok r) :
    walk (qs.filter Path.isName) trail here = .ok r := by
  induction qs generalizing trail here with
  | nil => exact h
  | cons q qs ih =>
    obtain ⟨s, hs, hw⟩ := walk_cons h
    by_cases hq : Path.isName q = true
    · rw [List.filter_cons_of_pos hq, walk, hs]
      exact ih hw
    · rw [List.filter_cons_of_neg hq]
      obtain ⟨rfl, -⟩ := step_of_not_isName hq hs
      exact ih hw

/-- What a path leads to is a directory, if its last piece is no name. -/
theorem walk_concat {qs : List Bytes} {l : Bytes} (h : walk (qs ++ [l]) trail here = .ok r)
    (hl : ¬ Path.isName l = true) : ∃ entries, r.2 = .directory entries := by
  induction qs generalizing trail here with
  | nil =>
    obtain ⟨s, hs, hw⟩ := walk_cons h
    obtain ⟨rfl, hdir⟩ := step_of_not_isName hl hs
    cases hw
    exact hdir
  | cons q qs ih =>
    obtain ⟨s, -, hw⟩ := walk_cons h
    exact ih hw

variable {files : Files} {a b : Bytes} {x y : Entry}

/-- A path is followed from the root or from the working directory. -/
theorem find_ok (h : files.find a = .ok x) : ∃ s t,
    (if Path.isAbsolute a then .ok ([], files.root) else walk files.workingDirectory [] files.root) =
      .ok s ∧ walk (Path.pieces a) s.1 s.2 = .ok (t, x) := by
  unfold find at h
  split at h
  · cases h
  · split at h
    · cases h
    · simp only [bind, Except.bind, pure, Except.pure] at h
      cases habs : Path.isAbsolute a with
      | true =>
        simp only [habs, if_true] at h
        split at h
        · cases h
        · next r hw =>
          cases h
          exact ⟨([], files.root), r.1, rfl, hw⟩
      | false =>
        simp only [habs, Bool.false_eq_true, if_false] at h
        split at h
        · cases h
        · next s hs =>
          split at h
          · cases h
          · next r hw =>
            cases h
            exact ⟨s, r.1, hs, hw⟩

/-- Two spellings of a path do not lead to different places. -/
theorem find_same (hc : Path.components a = Path.components b) (ha : files.find a = .ok x)
    (hb : files.find b = .ok y) : x = y := by
  obtain ⟨s, t, hs, hwalk⟩ := find_ok ha
  obtain ⟨s', t', hs', hwalk'⟩ := find_ok hb
  obtain ⟨hl, hn⟩ := Path.components_eq_iff.mp hc
  rw [Path.isAbsolute_congr hl] at hs
  obtain rfl : s = s' := Except.ok.inj (hs.symm.trans hs')
  have hnames := walk_names hwalk
  rw [hn, walk_names hwalk'] at hnames
  cases hnames
  rfl

/-- A path that leads to a file ends in a name. -/
theorem find_file (h : files.find a = .ok x) (hx : ∀ entries, x ≠ .directory entries) :
    ∃ qs l, Path.pieces a = qs ++ [l] ∧ Path.isName l = true := by
  obtain ⟨s, t, -, hwalk⟩ := find_ok h
  obtain ⟨qs, l, hp⟩ := Path.exists_pieces_concat a
  refine ⟨qs, l, hp, ?_⟩
  by_contra hl
  rw [hp] at hwalk
  obtain ⟨entries, he⟩ := walk_concat hwalk hl
  exact hx entries he

end Files

/-! ## Linkers of a tree -/

/-- The C string of some bytes is all of them, or all but a NUL at the end. -/
theorem cString?_ok {a p : Bytes} (h : cString? a = .ok p) : 0 ∉ p ∧ (a = p ∨ a = p ++ [0]) := by
  unfold cString? at h
  split at h
  · next hlast =>
    split at h
    · cases h
    · next hin =>
      cases h
      obtain ⟨q, rfl⟩ := List.getLast?_eq_some_iff.mp hlast
      exact ⟨by simpa using hin, .inr (by simp)⟩
  · split at h
    · cases h
    · next hin =>
      cases h
      exact ⟨by simpa using hin, .inl rfl⟩

namespace Linker

/-- By a path with a slash the linker opens files of the tree, and what names stand for in an image
    depends on the file alone. Where bare names are searched is left open. The tree has no links to
    directories, so that `..` leads back to where a path has come from: paths that go through such a
    link and then by `..` are not covered. -/
def Follows (linker : Linker) (files : Files) : Prop :=
  ∃ meaning : Entry → Bytes → Option EntryPoint, ∀ path image, Path.isBare path = false →
    linker.openImage path = .ok image → ∃ x, files.find path = .ok x ∧
      (∀ entries, x ≠ .directory entries) ∧ image.resolve = meaning x

theorem ofFiles_follows (files : Files) : (ofFiles files).Follows files := by
  refine ⟨fun _ => (recorderImage "").resolve, fun path image hb h => ?_⟩
  simp only [ofFiles, hb, Bool.false_eq_true, if_false] at h
  split at h
  all_goals first | cases h
  next name hf => exact ⟨_, hf, nofun, rfl⟩

variable {linker : Linker} {files : Files} {a b : Bytes} {x y : Image}

/-- Two spellings of a path, as C strings. -/
theorem components_of_cString {p q : Bytes} (hc : Path.components a = Path.components b)
    (hp : cString? a = .ok p) (hq : cString? b = .ok q) :
    Path.components p = Path.components q := by
  obtain ⟨hp0, rfl | rfl⟩ := cString?_ok hp <;> obtain ⟨hq0, rfl | rfl⟩ := cString?_ok hq
  · exact hc
  · exact absurd hc.symm (Path.components_ne_of_nul hp0)
  · exact absurd hc (Path.components_ne_of_nul hq0)
  · exact Path.components_of_nul hc

theorem openPath_ok (h : linker.openPath a = .ok x) :
    ∃ p, cString? a = .ok p ∧ linker.openImage p = .ok x := by
  unfold openPath at h
  split at h
  · cases h
  · next p hp => exact ⟨p, hp, h⟩

/-- Two spellings of a path that open images open images alike. -/
theorem Follows.opens_same (hf : linker.Follows files)
    (hc : Path.components a = Path.components b) (ha : linker.openPath a = .ok x)
    (hb : linker.openPath b = .ok y) : x.resolve = y.resolve := by
  obtain ⟨p, hp, hx⟩ := openPath_ok ha
  obtain ⟨q, hq, hy⟩ := openPath_ok hb
  have hpq := components_of_cString hc hp hq
  obtain ⟨meaning, hf⟩ := hf
  cases hpb : Path.isBare p <;> cases hqb : Path.isBare q
  · obtain ⟨f, hfind, -, hres⟩ := hf p x hpb hx
    obtain ⟨g, hfind', -, hres'⟩ := hf q y hqb hy
    rw [hres, hres', Files.find_same hpq hfind hfind']
  · obtain ⟨f, hfind, hfile, -⟩ := hf p x hpb hx
    obtain ⟨qs, l, hl, hname⟩ := Files.find_file hfind hfile
    rw [Path.not_isBare_of_components hpb hl hname hpq.symm] at hqb
    cases hqb
  · obtain ⟨f, hfind, hfile, -⟩ := hf q y hqb hy
    obtain ⟨qs, l, hl, hname⟩ := Files.find_file hfind hfile
    rw [Path.not_isBare_of_components hqb hl hname hpq] at hpb
    cases hpb
  · obtain rfl := Path.isBare_unique hpb hqb hpq
    rw [Except.ok.inj (hx.symm.trans hy)]

end Linker

end ScopedEngine
