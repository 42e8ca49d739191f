/-
  ScopedEngine.Proofs.Layouts — how a file is laid out does not matter to what it configures.

  `Change` changes a mapping without touching its named keys: the order of the entries, and
  entries under other keys. `RootChange` makes such a change in the root or in the mapping under
  `symbols`, or moves everything in the text. One step keeps what is demanded of a document and
  what it states (`RootChange.alike`); so does any chain of them. Main result:
  - `ofFile_reads_stated`: a file is read exactly if its document is legible and what it states
    is valid; without anchors, files that differ by a chain of such changes are read alike.
-/

import Mathlib.Logic.Relation
import ScopedEngine.Proofs.Anchors
import ScopedEngine.Proofs.Documents

namespace ScopedEngine

open Yaml

/-! ## Nodes without their places -/

namespace Yaml.Node

mutual

/-- The node without its place in the text. -/
def bare : Node → Node
  | .scalar _ s => .scalar .start s
  | .sequence _ items => .sequence .start (bareItems items)
  | .mapping _ es => .mapping .start (bareEntries es)
  | .aliasOf _ i => .aliasOf .start i

def bareItems : List Node → List Node
  | [] => []
  | x :: xs => bare x :: bareItems xs

def bareEntries : List (Node × Node) → List (Node × Node)
  | [] => []
  | (k, v) :: es => (bare k, bare v) :: bareEntries es

end

theorem bareEntries_eq (es : List (Node × Node)) :
    bareEntries es = es.map fun e => (e.1.bare, e.2.bare) := by
  induction es with
  | nil => rfl
  | cons e es ih =>
    rw [bareEntries, ih]
    rfl

@[simp]
theorem text?_bare (n : Node) : n.bare.text? = n.text? := by
  cases n <;> rfl

@[simp]
theorem entries?_bare (n : Node) : n.bare.entries? = n.entries?.map bareEntries := by
  cases n with
  | scalar m s =>
    by_cases h : s.text = [] ∧ s.style = .plain <;> simp [bare, entries?, h, bareEntries]
  | _ => rfl

end Yaml.Node

namespace Yaml.Document

variable {d : Document}

/-- Without anchors every node stands for itself. -/
theorem resolve_anchorless (h : d.definitions = []) (n : Node) : d.resolve n = n := by
  cases n with
  | aliasOf m i => simp [resolve, slot?, h]
  | _ => rfl

/-- No document: what nodes mean without anchors. -/
def anchorless : Document := ⟨none, []⟩

@[simp]
theorem text?_anchorless (n : Node) : anchorless.text? n = n.text? :=
  congrArg Node.text? (resolve_anchorless rfl n)

@[simp]
theorem entries?_anchorless (n : Node) : anchorless.entries? n = n.entries? :=
  congrArg Node.entries? (resolve_anchorless rfl n)

end Yaml.Document

namespace Config

variable {d : Document} {names : List String} {es es' : List (Node × Node)}

/-! ## Changes that leave the named keys alone -/

/-- A change of a mapping that has these names among its keys. -/
inductive Change (names : List String) : List (Node × Node) → List (Node × Node) → Prop
  /-- Another order of the entries. -/
  | order {es es' : List (Node × Node)} (h : es.Perm es') : Change names es es'
  /-- One more entry, of any value, under a scalar that is none of the names. -/
  | extra {k v : Node} {t : List Char} {es : List (Node × Node)} (hk : k.text? = some t)
      (ht : ∀ name ∈ names, t ≠ name.toList) : Change names es ((k, v) :: es)

theorem under_perm (h : es.Perm es') (name : String) :
    (d.under name es).Perm (d.under name es') :=
  (h.filter _).map _

/-- What is under the names is the same, up to the order of repeated keys. -/
theorem Change.under (h : Change names es es') {name : String} (hn : name ∈ names) :
    (Document.anchorless.under name es).Perm (Document.anchorless.under name es') := by
  cases h with
  | order h => exact under_perm h name
  | extra hk ht =>
    rw [under_other]
    simpa [hk] using ht name hn

theorem Change.keyed (h : Change names es es') :
    Keyed .anchorless names es ↔ Keyed .anchorless names es' := by
  have hkeys : (∀ e ∈ es, (Document.anchorless.text? e.1).isSome) ↔
      ∀ e ∈ es', (Document.anchorless.text? e.1).isSome := by
    cases h with
    | order h => simp only [h.mem_iff]
    | extra hk ht => simp [hk]
  have honce : (∀ name ∈ names, (Document.anchorless.under name es).length ≤ 1) ↔
      ∀ name ∈ names, (Document.anchorless.under name es').length ≤ 1 :=
    forall₂_congr fun name hn => by rw [(h.under hn).length_eq]
  exact ⟨fun k => ⟨hkeys.mp k.keys, honce.mp k.once⟩,
    fun k => ⟨hkeys.mpr k.keys, honce.mpr k.once⟩⟩

theorem Change.under_eq (h : Change names es es') (hk : Keyed .anchorless names es)
    {name : String} (hn : name ∈ names) :
    Document.anchorless.under name es = Document.anchorless.under name es' := by
  have hp := h.under hn
  have hl := hk.once name hn
  rcases hu : Document.anchorless.under name es with _ | ⟨v, _ | ⟨w, vs⟩⟩
  · rw [hu] at hp
    exact (List.nil_perm.mp hp).symm
  · rw [hu] at hp
    exact List.singleton_perm.mp hp
  · simp [hu] at hl

theorem Change.legibleSymbols (h : Change ["init", "finalize"] es es') :
    LegibleSymbols .anchorless es ↔ LegibleSymbols .anchorless es' := by
  constructor
  · intro l
    refine ⟨h.keyed.mp l.toKeyed, fun name hn => ?_⟩
    rw [← h.under_eq l.toKeyed hn]
    exact l.scalars name hn
  · intro l
    have hk := h.keyed.mpr l.toKeyed
    refine ⟨hk, fun name hn => ?_⟩
    rw [h.under_eq hk hn]
    exact l.scalars name hn

theorem Change.statedSymbols (h : Change ["init", "finalize"] es es')
    (l : LegibleSymbols .anchorless es) :
    statedSymbols .anchorless es = statedSymbols .anchorless es' := by
  have hi := h.under_eq l.toKeyed (show "init" ∈ _ by simp)
  have hf := h.under_eq l.toKeyed (show "finalize" ∈ _ by simp)
  rw [Config.statedSymbols, Config.statedSymbols, Document.given?, Document.given?,
    Document.given?, Document.given?, hi, hf]

/-- A change of the root that means nothing to a reader of configurations. -/
inductive RootChange : List (Node × Node) → List (Node × Node) → Prop
  /-- Everything stands in other places of the text. -/
  | places {es es' : List (Node × Node)} (h : Node.bareEntries es = Node.bareEntries es') :
      RootChange es es'
  | root {es es' : List (Node × Node)} (h : Change ["library", "symbols"] es es') :
      RootChange es es'
  /-- A change of the mapping under `symbols`, wherever that stands. -/
  | symbols (before after : List (Node × Node)) {k v v' : Node} {fs fs' : List (Node × Node)}
      (hk : k.text? = some "symbols".toList) (hv : v.entries? = some fs)
      (hv' : v'.entries? = some fs') (h : Change ["init", "finalize"] fs fs') :
      RootChange (before ++ (k, v) :: after) (before ++ (k, v') :: after)

/-! ## Places do not matter -/

theorem under_bareEntries (name : String) (es : List (Node × Node)) :
    Document.anchorless.under name (Node.bareEntries es) =
      (Document.anchorless.under name es).map Node.bare := by
  rw [Node.bareEntries_eq, Document.under, Document.under, List.filter_map, List.map_map,
    List.map_map]
  simp [Function.comp_def]

theorem keyed_bareEntries :
    Keyed .anchorless names (Node.bareEntries es) ↔ Keyed .anchorless names es := by
  have hkeys : (∀ e ∈ Node.bareEntries es, (Document.anchorless.text? e.1).isSome) ↔
      ∀ e ∈ es, (Document.anchorless.text? e.1).isSome := by
    rw [Node.bareEntries_eq, List.forall_mem_map]
    simp only [Document.text?_anchorless, Node.text?_bare]
  simp only [keyed_iff, hkeys, under_bareEntries, List.length_map]

theorem given?_bareEntries (name : String) (es : List (Node × Node)) :
    Document.anchorless.given? name (Node.bareEntries es) =
      Document.anchorless.given? name es := by
  rw [Document.given?, Document.given?, under_bareEntries]
  rcases Document.anchorless.under name es with _ | ⟨v, vs⟩ <;> simp

theorem legibleSymbols_bareEntries :
    LegibleSymbols .anchorless (Node.bareEntries es) ↔ LegibleSymbols .anchorless es := by
  simp only [legibleSymbols_iff, keyed_bareEntries, under_bareEntries, List.forall_mem_map,
    Document.text?_anchorless, Node.text?_bare]

theorem inside_bareEntries (name : String) (es : List (Node × Node)) :
    Document.anchorless.inside name (Node.bareEntries es) =
      Node.bareEntries (Document.anchorless.inside name es) := by
  rw [Document.inside, Document.inside, under_bareEntries]
  rcases Document.anchorless.under name es with _ | ⟨v, vs⟩
  · rfl
  · cases h : v.entries? <;> simp [h, Node.bareEntries]

theorem legible_bareEntries :
    Legible .anchorless (Node.bareEntries es) ↔ Legible .anchorless es := by
  have hsymbols (v : Node) : (∃ fs, v.bare.entries? = some fs ∧ LegibleSymbols .anchorless fs) ↔
      ∃ fs, v.entries? = some fs ∧ LegibleSymbols .anchorless fs := by
    cases h : v.entries? <;> simp [h, legibleSymbols_bareEntries]
  simp only [legible_iff, keyed_bareEntries, under_bareEntries, List.forall_mem_map,
    Document.text?_anchorless, Document.entries?_anchorless, Node.text?_bare, hsymbols]

theorem stated_bareEntries (es : List (Node × Node)) :
    stated .anchorless (Node.bareEntries es) = stated .anchorless es := by
  simp only [stated, Config.statedSymbols, given?_bareEntries, inside_bareEntries]

/-! ## One change, and any number of them -/

/-- What is read from two mappings without anchors is the same. -/
def Alike (es es' : List (Node × Node)) : Prop :=
  (Legible .anchorless es ↔ Legible .anchorless es') ∧
    (Legible .anchorless es → stated .anchorless es = stated .anchorless es')

theorem Change.alike (h : Change ["library", "symbols"] es es') : Alike es es' := by
  have key : Keyed .anchorless ["library", "symbols"] es →
      Document.anchorless.under "library" es = Document.anchorless.under "library" es' ∧
        Document.anchorless.under "symbols" es = Document.anchorless.under "symbols" es' :=
    fun hk => ⟨h.under_eq hk (by simp), h.under_eq hk (by simp)⟩
  refine ⟨⟨fun l => ?_, fun l => ?_⟩, fun l => ?_⟩
  · obtain ⟨hl, hs⟩ := key l.toKeyed
    exact ⟨h.keyed.mp l.toKeyed, hl ▸ l.library, hs ▸ l.symbols⟩
  · have hk := h.keyed.mpr l.toKeyed
    obtain ⟨hl, hs⟩ := key hk
    exact ⟨hk, hl ▸ l.library, hs ▸ l.symbols⟩
  · obtain ⟨hl, hs⟩ := key l.toKeyed
    rw [stated, stated, Document.given?, Document.given?, Document.inside, Document.inside, hl, hs]

theorem under_append (name : String) (es es' : List (Node × Node)) :
    d.under name (es ++ es') = d.under name es ++ d.under name es' := by
  rw [Document.under, List.filter_append, List.map_append]
  rfl

/-- One entry for another under `symbols`, whose mappings differ by a change. -/
theorem Change.alike_symbols {fs fs' : List (Node × Node)} (h : Change ["init", "finalize"] fs fs')
    (before after : List (Node × Node)) {k v v' : Node} (hk : k.text? = some "symbols".toList)
    (hv : v.entries? = some fs) (hv' : v'.entries? = some fs') :
    Alike (before ++ (k, v) :: after) (before ++ (k, v') :: after) := by
  have hlibrary (w : Node) : Document.anchorless.under "library" (before ++ (k, w) :: after) =
      Document.anchorless.under "library" (before ++ after) := by
    rw [under_append, under_append, under_other]
    simp [hk]
  have hsymbols (w : Node) : Document.anchorless.under "symbols" (before ++ (k, w) :: after) =
      Document.anchorless.under "symbols" before ++
        w :: Document.anchorless.under "symbols" after := by
    rw [under_append, under_same]
    simpa using hk
  have hone : (∃ gs, v.entries? = some gs ∧ LegibleSymbols .anchorless gs) ↔
      ∃ gs, v'.entries? = some gs ∧ LegibleSymbols .anchorless gs := by
    simp [hv, hv', h.legibleSymbols]
  refine ⟨?_, fun l => ?_⟩
  · simp only [legible_iff, keyed_iff, hlibrary, hsymbols, List.forall_mem_append,
      List.forall_mem_cons, List.length_append, List.length_cons, List.not_mem_nil,
      Document.entries?_anchorless, hone]
    simp
  · have hnone : Document.anchorless.under "symbols" before = [] := by
      have := l.once "symbols" (by simp)
      rw [hsymbols, List.length_append, List.length_cons] at this
      exact List.length_eq_zero_iff.mp (by omega)
    obtain ⟨gs, hgs, hl⟩ := l.symbols v (by simp [hsymbols])
    obtain rfl : fs = gs := by simpa [hv] using hgs
    have hin (w : Node) (gs : List (Node × Node)) (hw : w.entries? = some gs) :
        Document.anchorless.inside "symbols" (before ++ (k, w) :: after) = gs := by
      simp [Document.inside, hsymbols, hnone, hw]
    rw [stated, stated, Document.given?, Document.given?, hlibrary, hlibrary, hin v fs hv,
      hin v' fs' hv', h.statedSymbols hl]

theorem RootChange.alike (h : RootChange es es') : Alike es es' := by
  cases h with
  | places h =>
    refine ⟨?_, fun _ => ?_⟩
    · rw [← legible_bareEntries, h, legible_bareEntries]
    · rw [← stated_bareEntries, h, stated_bareEntries]
  | root h => exact h.alike
  | symbols before after hk hv hv' h => exact h.alike_symbols before after hk hv hv'

theorem alike_of_changes (h : Relation.EqvGen RootChange es es') : Alike es es' := by
  induction h with
  | rel es es' h => exact h.alike
  | refl es => exact ⟨.rfl, fun _ => rfl⟩
  | symm es es' _ ih => exact ⟨ih.1.symm, fun l => (ih.2 (ih.1.mpr l)).symm⟩
  | trans es es' es'' _ _ ih ih' =>
    exact ⟨ih.1.trans ih'.1, fun l => (ih.2 l).trans (ih'.2 (ih.1.mp l))⟩

/-! ## Files -/

/-- Only the definitions of a document matter to what its nodes mean. -/
theorem reads_anchorless (h : d.definitions = []) (es : List (Node × Node)) :
    (Legible d es ↔ Legible .anchorless es) ∧ stated d es = stated .anchorless es := by
  have hr : d.resolve = Document.anchorless.resolve := by
    funext n
    rw [Document.resolve_anchorless h, Document.resolve_anchorless rfl]
  have ht : d.text? = Document.anchorless.text? := by
    funext n
    rw [Document.text?, Document.text?, hr]
  have he : d.entries? = Document.anchorless.entries? := by
    funext n
    rw [Document.entries?, Document.entries?, hr]
  have hu : d.under = Document.anchorless.under := by
    funext name es
    rw [Document.under, Document.under, ht]
  constructor
  · simp only [legible_iff, legibleSymbols_iff, keyed_iff, ht, he, hu]
  · simp only [stated, Config.statedSymbols, Document.given?, Document.inside, ht, he, hu]

/-- A file is read exactly if its one document has scalars for keys, `library` and `symbols` at
    most once among them, with a scalar and a mapping (or nothing) as their values, `init` and
    `finalize` at most once in that, both with scalars, and what these state is valid: then it is
    what they state, with a default for each that is missing. Aliases stand for nodes of the
    document. Without anchors, neither the order of the entries nor entries under other keys,
    whatever is in them, change what is read. -/
theorem ofFile_reads_stated {files : Files} {path : Bytes} {s : List Char}
    (hs : files.read path = .ok s) (hd : Document.ofText s = .ok d) :
    (∀ n, d.Part n → (d.resolve n).IsOwn) ∧
    (∀ c, ofFile files path = .ok c ↔ ∃ es, d.rootEntries? = some es ∧ Legible d es ∧
      c = stated d es ∧ c.validate = .ok ()) ∧
    (∀ files' path' s' d' es es', files'.read path' = .ok s' → Document.ofText s' = .ok d' →
      d.definitions = [] → d'.definitions = [] → d.rootEntries? = some es →
      d'.rootEntries? = some es' → Relation.EqvGen RootChange es es' →
      ∀ c, ofFile files path = .ok c ↔ ofFile files' path' = .ok c) := by
  refine ⟨fun n => Document.resolve_isOwn hd, fun c => ofFile_eq_ok hs hd, ?_⟩
  intro files' path' s' d' es es' hs' hd' hdefs hdefs' hes hes' hch c
  obtain ⟨hiff, hst⟩ := alike_of_changes hch
  obtain ⟨hl, hc⟩ := reads_anchorless hdefs es
  obtain ⟨hl', hc'⟩ := reads_anchorless hdefs' es'
  rw [ofFile_eq_ok hs hd, ofFile_eq_ok hs' hd']
  simp only [hes, hes', Option.some.injEq, exists_eq_left', hl, hl', hc, hc', ← hiff]
  exact and_congr_right fun l => by rw [hst l]

def otherEntry : Node × Node :=
  (.scalar .start ⟨"b".toList, .plain, none⟩,
    .sequence ⟨0, 3, 3⟩ [.scalar ⟨0, 4, 4⟩ ⟨"c".toList, .plain, none⟩])

theorem samples_read_alike :
    ofFile samples (Utf8.ofString "bare") = .ok ⟨Utf8.ofString "a", .default⟩ ∧
      ofFile samples (Utf8.ofString "more") = .ok ⟨Utf8.ofString "a", .default⟩ := by
  have hmore : Document.ofText "b: [c]\nlibrary: a\n".toList =
      .ok ⟨some (.mapping .start [otherEntry, sampleEntry 1]), []⟩ := by cbv
  have hfile' : samples.read (Utf8.ofString "more") = .ok "b: [c]\nlibrary: a\n".toList := by cbv
  have hmoved : RootChange [sampleEntry 0] [sampleEntry 1] := .places rfl
  have hadded : RootChange [sampleEntry 1] [otherEntry, sampleEntry 1] :=
    .root (.extra (t := "b".toList) rfl (by decide))
  have hchange : Relation.EqvGen RootChange [sampleEntry 0] [otherEntry, sampleEntry 1] :=
    .trans _ _ _ (.rel _ _ hmoved) (.rel _ _ hadded)
  obtain ⟨-, hstated, hchanged⟩ := ofFile_reads_stated sample_read sample_document
  have hok : ofFile samples (Utf8.ofString "bare") = .ok ⟨Utf8.ofString "a", .default⟩ :=
    (hstated _).mpr ⟨_, rfl, sample_legible, rfl, rfl⟩
  exact ⟨hok, (hchanged _ _ _ _ _ _ hfile' hmore rfl rfl rfl rfl hchange _).mp hok⟩

end Config

end ScopedEngine
