/-
  ScopedEngine.Proofs.Documents — what a document has to be for a configuration, and what it states.

  A reader takes the entries of a mapping one after the other, with the fields met so far;
  `Fills` says what that comes to for one field, apart from the others, and `symbolFields_eq_ok`
  and `configFields_eq_ok` say it of the two readers. Main result:
  - `ofDocument_eq_ok`: a document is read exactly if its entries are `Legible`, as the
    configuration that they state (`stated`), with a default for each field that they do not.
-/

import Mathlib
import ScopedEngine.Config.Validity

namespace ScopedEngine

open Yaml

namespace Yaml

/-- The text of a scalar. -/
def Node.text? : Node → Option (List Char)
  | .scalar _ s => some s.text
  | _ => none

/-- The entries of a mapping. What is left empty has none. -/
def Node.entries? : Node → Option (List (Node × Node))
  | .mapping _ es => some es
  | .scalar _ s => if s.text = [] ∧ s.style = .plain then some [] else none
  | _ => none

namespace Document

/-- The text of a node that stands for a scalar. -/
def text? (d : Document) (n : Node) : Option (List Char) := (d.resolve n).text?

/-- The entries of a node that stands for a mapping. -/
def entries? (d : Document) (n : Node) : Option (List (Node × Node)) := (d.resolve n).entries?

/-- The entries of the root. -/
def rootEntries? (d : Document) : Option (List (Node × Node)) :=
  match d.root with
  | none => some []
  | some n => d.entries? n

/-- The values of the entries under a name, in order. -/
def under (d : Document) (name : String) (es : List (Node × Node)) : List Node :=
  (es.filter fun e => d.text? e.1 = some name.toList).map (·.2)

/-- The text given under a name. -/
def given? (d : Document) (name : String) (es : List (Node × Node)) : Option (List Char) :=
  (d.under name es).head?.bind d.text?

/-- The entries of the mapping under a name. -/
def inside (d : Document) (name : String) (es : List (Node × Node)) : List (Node × Node) :=
  ((d.under name es).head?.bind d.entries?).getD []

end Document

end Yaml

namespace Config

/-! ## What is demanded of a document, and what it states -/

/-- Keys are scalars, and none of these names stands twice. -/
@[mk_iff]
structure Keyed (d : Document) (names : List String) (es : List (Node × Node)) : Prop where
  keys : ∀ e ∈ es, (d.text? e.1).isSome
  once : ∀ name ∈ names, (d.under name es).length ≤ 1

/-- The demands on the entries under `symbols`. -/
@[mk_iff]
structure LegibleSymbols (d : Document) (es : List (Node × Node)) : Prop
    extends Keyed d ["init", "finalize"] es where
  scalars : ∀ name ∈ ["init", "finalize"], ∀ v ∈ d.under name es, (d.text? v).isSome

/-- The demands on the entries of the root. -/
@[mk_iff]
structure Legible (d : Document) (es : List (Node × Node)) : Prop
    extends Keyed d ["library", "symbols"] es where
  library : ∀ v ∈ d.under "library" es, (d.text? v).isSome
  symbols : ∀ v ∈ d.under "symbols" es, ∃ fs, d.entries? v = some fs ∧ LegibleSymbols d fs

/-- The symbols that entries state, with defaults for what is missing. -/
def statedSymbols (d : Document) (es : List (Node × Node)) : Symbols where
  init := ((d.given? "init" es).map String.ofList).getD Symbols.default.init
  finalize := ((d.given? "finalize" es).map String.ofList).getD Symbols.default.finalize

/-- The configuration that the entries of the root state. -/
def stated (d : Document) (es : List (Node × Node)) : Config where
  library := ((d.given? "library" es).map Utf8.encode).getD defaultLibrary
  symbols := statedSymbols d (d.inside "symbols" es)

variable {d : Document} {m : Mark} {n : Node} {es : List (Node × Node)} {α : Type}

theorem scalarText_eq_ok {expected : Expected} {path : List Segment} {t : List Char} :
    scalarText d n expected path = .ok t ↔ d.text? n = some t := by
  unfold scalarText Document.text?
  cases d.resolve n <;> simp [Node.text?]

theorem entriesOf_eq_ok {expected : Expected} {path : List Segment} :
    (∃ m, entriesOf d n expected path = .ok (m, es)) ↔ d.entries? n = some es := by
  unfold entriesOf Document.entries?
  cases d.resolve n with
  | scalar m s =>
    by_cases h : s.text = [] ∧ s.style = .plain
    · simp [Node.entries?, h]
    · simp only [Node.entries?, Bool.and_eq_true, decide_eq_true_eq, h, if_false]
      simp
  | _ => simp [Node.entries?]

/-- A field over entries: it keeps its value if none is under its name; one entry fills it if it
    is open. -/
def Fills (d : Document) (name : String) (R : Node → α → Prop) (es : List (Node × Node))
    (f g : Option α) : Prop :=
  (d.under name es = [] ∧ g = f) ∨ (f = none ∧ ∃ v a, d.under name es = [v] ∧ R v a ∧ g = some a)

theorem under_other {name : String} {k v : Node} (h : d.text? k ≠ some name.toList) :
    d.under name ((k, v) :: es) = d.under name es := by
  simp [Document.under, h]

theorem under_same {name : String} {k v : Node} (h : d.text? k = some name.toList) :
    d.under name ((k, v) :: es) = v :: d.under name es := by
  simp [Document.under, h]

theorem fills_nil {name : String} {R : Node → α → Prop} {f g : Option α} :
    Fills d name R [] f g ↔ g = f := by
  simp [Fills, Document.under]

theorem fills_other {name : String} {R : Node → α → Prop} {k v : Node} {f g : Option α}
    (h : d.text? k ≠ some name.toList) :
    Fills d name R ((k, v) :: es) f g ↔ Fills d name R es f g := by
  rw [Fills, Fills, under_other h]

theorem fills_same {name : String} {R : Node → α → Prop} {k v : Node} {f g : Option α}
    (h : d.text? k = some name.toList) :
    Fills d name R ((k, v) :: es) f g ↔ f = none ∧ ∃ a, R v a ∧ Fills d name R es (some a) g := by
  simp only [Fills, under_same h]
  constructor
  · rintro (⟨hne, -⟩ | ⟨hf, w, a, hw, hR, hg⟩)
    · cases hne
    · obtain ⟨rfl, hnil⟩ := List.cons.inj hw
      exact ⟨hf, a, hR, .inl ⟨hnil, hg⟩⟩
  · rintro ⟨hf, a, hR, ⟨hnil, hg⟩ | ⟨hsome, -⟩⟩
    · exact .inr ⟨hf, v, a, by rw [hnil], hR, hg⟩
    · cases hsome

theorem bind_eq_ok {ε β : Type} {x : Except ε α} {f : α → Except ε β} {b : β} :
    (x >>= f) = .ok b ↔ ∃ a, x = .ok a ∧ f a = .ok b := by
  cases x with
  | error e => simp [bind, Except.bind]
  | ok a => simp [bind, Except.bind]

/-- What is refused when a field is filled already. -/
theorem unless_filled {ε β : Type} {f : Option α} {e : ε} {next : PUnit → Except ε β} {b : β} :
    (if f.isSome = true then throw e >>= next else next ⟨⟩) = .ok b ↔
      f = none ∧ next ⟨⟩ = .ok b := by
  cases f with
  | none => simp
  | some a => simp [throw, throwThe, MonadExceptOf.throw, bind, Except.bind]

/-- An entry under the name of a field that is open, and how the entries after it go on. -/
theorem fills_entry {ε β : Type} {name : String} {R : Node → α → Prop} {k v : Node}
    {f g : Option α} {e : ε} {next : PUnit → Except ε β} {b : β} {p : Prop}
    (hk : d.text? k = some name.toList)
    (hnext : next ⟨⟩ = .ok b ↔ ∃ a, R v a ∧ Fills d name R es (some a) g ∧ p) :
    (if f.isSome = true then throw e >>= next else next ⟨⟩) = .ok b ↔
      Fills d name R ((k, v) :: es) f g ∧ p := by
  rw [unless_filled, hnext, fills_same hk]
  constructor
  · rintro ⟨hf, a, hR, hg, hp⟩
    exact ⟨⟨hf, a, hR, hg⟩, hp⟩
  · rintro ⟨⟨hf, a, hR, hg⟩, hp⟩
    exact ⟨hf, a, hR, hg, hp⟩

theorem symbolFields_eq_ok {path : List Segment} {f g : SymbolFields} :
    symbolFields d m path es f = .ok g ↔
      Fills d "init" (fun v a => ∃ t, d.text? v = some t ∧ a = String.ofList t) es f.init g.init ∧
      Fills d "finalize" (fun v a => ∃ t, d.text? v = some t ∧ a = String.ofList t) es f.finalize
        g.finalize ∧ ∀ e ∈ es, (d.text? e.1).isSome := by
  induction es generalizing f with
  | nil =>
    simp only [symbolFields, fills_nil, Except.ok.injEq, List.not_mem_nil, false_implies,
      implies_true, and_true]
    cases f
    cases g
    simp [eq_comm]
  | cons e es ih =>
    obtain ⟨k, v⟩ := e
    rw [symbolFields, bind_eq_ok]
    simp only [scalarText_eq_ok, List.forall_mem_cons]
    cases hk : d.text? k with
    | none =>
      simp only [reduceCtorEq, false_and, exists_false, Option.isSome_none, Bool.false_eq_true,
        and_false]
    | some key =>
      simp only [Option.some.injEq, exists_eq_left', Option.isSome_some, true_and]
      by_cases h₁ : key = "init".toList
      · subst h₁
        have hother : d.text? k ≠ some "finalize".toList := by
          rw [hk]
          decide
        rw [if_pos rfl, fills_other hother]
        exact fills_entry hk (by simp [bind_eq_ok, scalarText_eq_ok, ih])
      · rw [if_neg h₁, fills_other (by rw [hk]; simpa using h₁)]
        by_cases h₂ : key = "finalize".toList
        · subst h₂
          rw [if_pos rfl, and_left_comm]
          exact fills_entry hk (by simp [bind_eq_ok, scalarText_eq_ok, ih, and_left_comm])
        · rw [if_neg h₂, fills_other (by rw [hk]; simpa using h₂), ih]

/-- A field of text that is open at first: at most one entry is under its name, a scalar. -/
theorem fills_text {name : String} {read : List Char → α} {g : Option α} :
    Fills d name (fun v a => ∃ t, d.text? v = some t ∧ a = read t) es none g ↔
      (d.under name es).length ≤ 1 ∧ (∀ v ∈ d.under name es, (d.text? v).isSome) ∧
        g = (d.given? name es).map read := by
  simp only [Fills, Document.given?]
  rcases d.under name es with _ | ⟨v, _ | ⟨w, vs⟩⟩
  · simp
  · cases h : d.text? v <;> simp [h]
  · simp

theorem symbolsOf_eq_ok {path : List Segment} {s : Symbols} :
    symbolsOf d n path = .ok s ↔
      ∃ es, d.entries? n = some es ∧ LegibleSymbols d es ∧ s = statedSymbols d es := by
  unfold symbolsOf
  simp only [bind_eq_ok, symbolFields_eq_ok, fills_text]
  constructor
  · rintro ⟨⟨m, es⟩, he, ⟨i, r⟩, ⟨⟨hi, hit, rfl⟩, ⟨hr, hrt, rfl⟩, hkeys⟩, hs⟩
    refine ⟨es, entriesOf_eq_ok.mp ⟨m, he⟩, ⟨⟨hkeys, ?_⟩, ?_⟩, (Except.ok.inj hs).symm⟩
    · simpa using ⟨hi, hr⟩
    · simpa using ⟨hit, hrt⟩
  · rintro ⟨es, he, h, rfl⟩
    obtain ⟨m, he⟩ := entriesOf_eq_ok.mpr he
    exact ⟨⟨m, es⟩, he, ⟨_, _⟩, ⟨⟨h.once _ (by simp), h.scalars _ (by simp), rfl⟩,
      ⟨h.once _ (by simp), h.scalars _ (by simp), rfl⟩, h.keys⟩, rfl⟩

theorem configFields_eq_ok {f g : ConfigFields} :
    configFields d m es f = .ok g ↔
      Fills d "library" (fun v a => ∃ t, d.text? v = some t ∧ a = Utf8.encode t) es f.library
        g.library ∧
      Fills d "symbols" (fun v a => ∃ fs, d.entries? v = some fs ∧ LegibleSymbols d fs ∧
        a = statedSymbols d fs) es f.symbols g.symbols ∧
      ∀ e ∈ es, (d.text? e.1).isSome := by
  induction es generalizing f with
  | nil =>
    simp only [configFields, fills_nil, Except.ok.injEq, List.not_mem_nil, false_implies,
      implies_true, and_true]
    cases f
    cases g
    simp [eq_comm]
  | cons e es ih =>
    obtain ⟨k, v⟩ := e
    rw [configFields, bind_eq_ok]
    simp only [scalarText_eq_ok, List.forall_mem_cons]
    cases hk : d.text? k with
    | none =>
      simp only [reduceCtorEq, false_and, exists_false, Option.isSome_none, Bool.false_eq_true,
        and_false]
    | some key =>
      simp only [Option.some.injEq, exists_eq_left', Option.isSome_some, true_and]
      by_cases h₁ : key = "library".toList
      · subst h₁
        have hother : d.text? k ≠ some "symbols".toList := by
          rw [hk]
          decide
        rw [if_pos rfl, fills_other hother]
        exact fills_entry hk (by simp [bind_eq_ok, scalarText_eq_ok, ih])
      · rw [if_neg h₁, fills_other (by rw [hk]; simpa using h₁)]
        by_cases h₂ : key = "symbols".toList
        · subst h₂
          rw [if_pos rfl, and_left_comm]
          refine fills_entry hk (bind_eq_ok.trans (exists_congr fun s => ?_))
          rw [symbolsOf_eq_ok, ih, and_left_comm (a := Fills d _ _ _ (some s) _)]
        · rw [if_neg h₂, fills_other (by rw [hk]; simpa using h₂), ih]

theorem fills_symbols {g : Option Symbols} :
    Fills d "symbols" (fun v a => ∃ fs, d.entries? v = some fs ∧ LegibleSymbols d fs ∧
        a = statedSymbols d fs) es none g ↔
      (d.under "symbols" es).length ≤ 1 ∧
        (∀ v ∈ d.under "symbols" es, ∃ fs, d.entries? v = some fs ∧ LegibleSymbols d fs) ∧
        g = (d.under "symbols" es).head?.map fun _ => statedSymbols d (d.inside "symbols" es) := by
  simp only [Fills, Document.inside]
  rcases d.under "symbols" es with _ | ⟨v, _ | ⟨w, vs⟩⟩
  · simp
  · cases h : d.entries? v <;> simp [h]
  · simp

theorem stated_symbols (d : Document) (es : List (Node × Node)) :
    ((d.under "symbols" es).head?.map fun _ => statedSymbols d (d.inside "symbols" es)).getD
      .default = (stated d es).symbols := by
  rw [stated, Document.inside]
  rcases d.under "symbols" es with _ | ⟨v, vs⟩ <;> rfl

/-- A document is read exactly if its entries are as demanded, as what they state. -/
theorem ofDocument_eq_ok {c : Config} :
    ofDocument d = .ok c ↔ ∃ es, d.rootEntries? = some es ∧ Legible d es ∧ c = stated d es := by
  unfold ofDocument Document.rootEntries?
  cases d.root with
  | none =>
    have hl : Legible d [] := by
      refine ⟨⟨?_, ?_⟩, ?_, ?_⟩ <;> simp [Document.under]
    have hs : stated d [] = .default := rfl
    simp [hl, hs, eq_comm]
  | some root =>
    simp only [bind_eq_ok, configFields_eq_ok, fills_text, fills_symbols]
    constructor
    · rintro ⟨⟨m, es⟩, he, ⟨l, s⟩, ⟨⟨hl, hlt, rfl⟩, ⟨hs, hss, rfl⟩, hkeys⟩, hc⟩
      refine ⟨es, entriesOf_eq_ok.mp ⟨m, he⟩, ⟨⟨hkeys, by simpa using ⟨hl, hs⟩⟩, hlt, hss⟩, ?_⟩
      exact (Except.ok.inj hc).symm.trans (congrArg (Config.mk _) (stated_symbols d es))
    · rintro ⟨es, he, h, rfl⟩
      obtain ⟨m, he⟩ := entriesOf_eq_ok.mpr he
      refine ⟨⟨m, es⟩, he, ⟨_, _⟩, ⟨⟨h.once _ (by simp), h.library, rfl⟩,
        ⟨h.once _ (by simp), h.symbols, rfl⟩, h.keys⟩, ?_⟩
      exact congrArg (fun s => Except.ok (Config.mk _ s)) (stated_symbols d es)

/-! ## Files -/

theorem ofText_eq_ok {s : List Char} (hd : Document.ofText s = .ok d) {c : Config} :
    ofText s = .ok c ↔ ofDocument d = .ok c ∧ c.validate = .ok () := by
  unfold ofText
  simp only [hd]
  cases ofDocument d with
  | error e => simp
  | ok c' =>
    simp only [Except.ok.injEq]
    constructor
    · intro h
      cases hv : c'.validate with
      | error e =>
        rw [hv] at h
        cases h
      | ok u =>
        rw [hv] at h
        cases h
        exact ⟨rfl, hv⟩
    · rintro ⟨rfl, hv⟩
      rw [hv]
      rfl

theorem ofFile_eq_ok {files : Files} {path : Bytes} {s : List Char}
    (hs : files.read path = .ok s) (hd : Document.ofText s = .ok d) {c : Config} :
    ofFile files path = .ok c ↔ ∃ es, d.rootEntries? = some es ∧ Legible d es ∧
      c = stated d es ∧ c.validate = .ok () := by
  rw [ofFile, hs]
  simp only [ofText_eq_ok hd, ofDocument_eq_ok]
  constructor
  · rintro ⟨⟨es, he, hl, hc⟩, hv⟩
    exact ⟨es, he, hl, hc, hv⟩
  · rintro ⟨es, he, hl, hc, hv⟩
    exact ⟨⟨es, he, hl, hc⟩, hv⟩

/-- A file that is read holds the text of a document. -/
theorem ofFile_ok {files : Files} {path : Bytes} {c : Config} (h : ofFile files path = .ok c) :
    ∃ s d es, files.read path = .ok s ∧ Document.ofText s = .ok d ∧ d.rootEntries? = some es ∧
      Legible d es ∧ c = stated d es ∧ c.validate = .ok () := by
  cases hs : files.read path with
  | error e =>
    rw [ofFile, hs] at h
    cases h
  | ok s =>
    cases hd : Document.ofText s with
    | error e =>
      simp only [ofFile, hs, ofText, hd, reduceCtorEq] at h
    | ok d =>
      obtain ⟨es, he, hl, hc, hv⟩ := (ofFile_eq_ok hs hd).mp h
      exact ⟨s, d, es, rfl, hd, he, hl, hc, hv⟩

/-- Two files with one library: a bare one, and one with an entry that configures nothing. -/
def samples : Files where
  root := .directory [(Utf8.ofString "bare", .file (Utf8.ofString "library: a\n")),
    (Utf8.ofString "more", .file (Utf8.ofString "b: [c]\nlibrary: a\n"))]
  workingDirectory := []

/-- The entry for the library, on a line of the text. -/
def sampleEntry (line : Nat) : Node × Node :=
  (.scalar ⟨line, 0, 0⟩ ⟨"library".toList, .plain, none⟩,
    .scalar ⟨line, 9, 9⟩ ⟨"a".toList, .plain, none⟩)

def sampleDocument : Document := ⟨some (.mapping .start [sampleEntry 0]), []⟩

theorem sample_read : samples.read (Utf8.ofString "bare") = .ok "library: a\n".toList := by cbv

theorem sample_document : Document.ofText "library: a\n".toList = .ok sampleDocument := by cbv

theorem sample_legible : Legible sampleDocument [sampleEntry 0] := by
  refine ⟨⟨?_, ?_⟩, ?_, ?_⟩ <;> simp [sampleEntry, Document.under, Document.text?, Node.text?,
    Document.resolve]

theorem ofFile_sample : ofFile samples (Utf8.ofString "bare") = .ok ⟨Utf8.ofString "a", .default⟩ :=
  (ofFile_eq_ok sample_read sample_document).mpr ⟨_, rfl, sample_legible, rfl, rfl⟩

end Config
end ScopedEngine
