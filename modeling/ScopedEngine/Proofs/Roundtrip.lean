/-
  ScopedEngine.Proofs.Roundtrip — a configuration is read back from its JSON form.

  The JSON form is an object of named texts and one object of named texts in it, so `ofText_object`
  gives its tree, and the entries of that state what was written. Main result:
  - `ofFile_json`: a file that holds the JSON form of a valid configuration is read as it.
-/

import ScopedEngine.Proofs.Compact
import ScopedEngine.Proofs.Encoding

namespace ScopedEngine.Config

open Yaml

variable {c : Config}

/-! ## The JSON form as a value -/

/-- The members of the object of symbols. -/
def symbolMembers (s : Symbols) (hi : ∀ x ∈ s.init.toList, Carried x)
    (hf : ∀ x ∈ s.finalize.toList, Carried x) : List (Name × Value) :=
  [(⟨"init", carried_of_all (by decide), by decide⟩, .string s.init.toList hi),
    (⟨"finalize", carried_of_all (by decide), by decide⟩, .string s.finalize.toList hf)]

/-- The members of the JSON form. -/
def jsonMembers (library : List Char) (s : Symbols) (hl : ∀ x ∈ library, Carried x)
    (hi : ∀ x ∈ s.init.toList, Carried x) (hf : ∀ x ∈ s.finalize.toList, Carried x) :
    List (Name × Value) :=
  [(⟨"library", carried_of_all (by decide), by decide⟩, .string library hl),
    (⟨"symbols", carried_of_all (by decide), by decide⟩, .object (symbolMembers s hi hf))]

theorem json?_eq {library : List Char} (hd : Utf8.decode? c.library = some library)
    (hl : ∀ x ∈ library, Carried x) (hi : ∀ x ∈ c.symbols.init.toList, Carried x)
    (hf : ∀ x ∈ c.symbols.finalize.toList, Carried x) :
    c.json? = some (objectText (jsonMembers library c.symbols hl hi hf)) := by
  rw [json?, hd]
  rfl

/-! ## What its tree states -/

variable {library : List Char} {s : Symbols} {hl : ∀ x ∈ library, Carried x}
  {hi : ∀ x ∈ s.init.toList, Carried x} {hf : ∀ x ∈ s.finalize.toList, Carried x}

@[simp]
theorem text?_quoted (t : List Char) : (quoted t).text? = some t := rfl

theorem under_symbolMembers :
    Document.anchorless.under "init" ((symbolMembers s hi hf).map entry) =
      [quoted s.init.toList] ∧
    Document.anchorless.under "finalize" ((symbolMembers s hi hf).map entry) =
      [quoted s.finalize.toList] := by
  constructor <;> simp [symbolMembers, entry, Document.under, Value.string]

theorem under_jsonMembers :
    Document.anchorless.under "library" ((jsonMembers library s hl hi hf).map entry) =
      [quoted library] ∧
    Document.anchorless.under "symbols" ((jsonMembers library s hl hi hf).map entry) =
      [objectNode (symbolMembers s hi hf)] := by
  constructor <;> simp [jsonMembers, entry, Document.under, Value.string, Value.object]

theorem entries?_objectNode (ms : List (Name × Value)) :
    (objectNode ms).entries? = some (ms.map entry) := rfl

theorem legible_json : Legible .anchorless ((jsonMembers library s hl hi hf).map entry) := by
  obtain ⟨hinit, hfinalize⟩ := @under_symbolMembers s hi hf
  obtain ⟨hlibrary, hsymbols⟩ := @under_jsonMembers library s hl hi hf
  have hinner : LegibleSymbols .anchorless ((symbolMembers s hi hf).map entry) := by
    refine ⟨⟨?_, ?_⟩, ?_⟩
    · simp [symbolMembers, entry]
    · simp [hinit, hfinalize]
    · simp [hinit, hfinalize]
  refine ⟨⟨?_, ?_⟩, ?_, ?_⟩
  · simp [jsonMembers, entry]
  · simp [hlibrary, hsymbols]
  · simp [hlibrary]
  · simp [hsymbols, entries?_objectNode, hinner]

theorem stated_json :
    stated .anchorless ((jsonMembers library s hl hi hf).map entry) =
      ⟨Utf8.encode library, s⟩ := by
  obtain ⟨hinit, hfinalize⟩ := @under_symbolMembers s hi hf
  obtain ⟨hlibrary, hsymbols⟩ := @under_jsonMembers library s hl hi hf
  simp [stated, statedSymbols, Document.given?, Document.inside, hinit, hfinalize, hlibrary,
    hsymbols, entries?_objectNode]

/-! ## Reading it back -/

/-- A valid configuration whose library is text, and whose texts are of characters that YAML
    carries between quotes, has a JSON form, and every file that holds it is read as the
    configuration: the same bytes of the library and the same names. -/
theorem ofFile_json (hv : c.validate = .ok ()) (hd : Utf8.decode? c.library = some library)
    (hl : ∀ x ∈ library, Carried x) (hi : ∀ x ∈ c.symbols.init.toList, Carried x)
    (hf : ∀ x ∈ c.symbols.finalize.toList, Carried x) :
    ∃ text, c.json? = some text ∧ ∀ files path, path.contains 0 = false →
      files.find path = .ok (.file (Utf8.encode text)) → ofFile files path = .ok c := by
  refine ⟨_, json?_eq hd hl hi hf, fun files path hpath hfind => ?_⟩
  obtain ⟨root, hroot, hdoc⟩ := ofText_object (jsonMembers library c.symbols hl hi hf)
  have hread : files.read path = .ok (objectText (jsonMembers library c.symbols hl hi hf)) := by
    simp only [Files.read, hpath, hfind, Utf8.decode?_eq_some.mpr rfl]
    rfl
  -- The entries are those of the tree, up to their places.
  obtain ⟨es, hes, hbare⟩ : ∃ es, root.entries? = some es ∧
      Node.bareEntries es = (jsonMembers library c.symbols hl hi hf).map entry := by
    have hentries := Node.entries?_bare root
    rw [hroot, entries?_objectNode] at hentries
    exact Option.map_eq_some_iff.mp hentries.symm
  obtain ⟨hlegible, hstated⟩ := reads_anchorless (d := ⟨some root, []⟩) rfl es
  refine (ofFile_eq_ok hread hdoc).mpr ⟨es, ?_, ?_, ?_, hv⟩
  · show (Document.resolve _ root).entries? = some es
    rw [Document.resolve_anchorless rfl]
    exact hes
  · rw [hlegible, ← legible_bareEntries, hbare]
    exact legible_json
  · rw [hstated, ← stated_bareEntries, hbare, stated_json, ← Utf8.decode?_eq_some.mp hd]

/-- Names and a path of quotes, signs, controls and blanks. -/
def awkward : Config where
  library := Utf8.ofString "a\x00 \"b\": #\\\n "
  symbols := ⟨" , go\t", "\x7b- é\x7d"⟩

theorem awkward_json : ∃ text, awkward.json? = some text ∧
    ofFile ⟨.directory [([0x66], .file (Utf8.encode text))], []⟩ [0x66] = .ok awkward := by
  obtain ⟨text, hjson, hread⟩ := ofFile_json (c := awkward) (by rfl) (Utf8.decode?_eq_some.mpr rfl)
    (carried_of_all (by decide)) (carried_of_all (by decide)) (carried_of_all (by decide))
  exact ⟨text, hjson, hread _ _ rfl rfl⟩

end ScopedEngine.Config
