/-
  ScopedEngine.Proofs.Precedence — which of its sources a configuration has each field from.

  A field is settled by the first of its layers that holds a text that is not empty, and by what
  is underneath if none does (`Settles`, which leaves one value: `Settles.unique`). Main results:
  - `fields_settled`: the variables in their order lie over the configuration, the file over the
    defaults, and an explicit library over everything; no other variable matters.
  - `mem_asked_iff`: the variables that are asked for are those whose values matter.
-/

import ScopedEngine.Config.Overrides
import ScopedEngine.Host.Script
import ScopedEngine.Proofs.Documents

namespace ScopedEngine.Config

variable {α : Type} {read : String → α} {under : α} {layers : List (Option String)}

/-! ## Layers -/

/-- The value of a field with these texts in layers over it, the strongest first. -/
inductive Settles (read : String → α) (under : α) : List (Option String) → α → Prop
  | bare : Settles read under [] under
  | set {v : String} {layers : List (Option String)} (h : v ≠ "") :
      Settles read under (some v :: layers) (read v)
  | missing {layers : List (Option String)} {a : α} (h : Settles read under layers a) :
      Settles read under (none :: layers) a
  | empty {layers : List (Option String)} {a : α} (h : Settles read under layers a) :
      Settles read under (some "" :: layers) a

theorem Settles.unique {a b : α} (ha : Settles read under layers a)
    (hb : Settles read under layers b) : a = b := by
  induction ha with
  | bare =>
    cases hb
    rfl
  | set h =>
    cases hb with
    | set _ => rfl
    | empty _ => exact absurd rfl h
  | missing _ ih =>
    cases hb with
    | missing hb => exact ih hb
  | empty _ ih =>
    cases hb with
    | set h => exact absurd rfl h
    | empty hb => exact ih hb

/-- A text that does not count lets the layers below it through. -/
theorem Settles.skip {look : Lookup} {name : String} {a : α} (h : look.get name = none)
    (ha : Settles read under layers a) : Settles read under (look name :: layers) a := by
  rw [Lookup.get] at h
  cases hl : look name with
  | none => exact .missing ha
  | some v =>
    have hv : v = "" := by simpa [hl] using h
    rw [hv]
    exact .empty ha

theorem Settles.top {look : Lookup} {name v : String} (h : look.get name = some v) :
    Settles read under (look name :: layers) (read v) := by
  obtain ⟨hl, hv⟩ := Option.filter_eq_some_iff.mp h
  rw [hl]
  exact .set (by simpa using hv)

theorem settles_one (look : Lookup) (name under : String) :
    Settles id under [look name] ((look.get name).getD under) := by
  cases h : look.get name with
  | none => exact .skip h .bare
  | some v => exact .top h

/-! ## The fields -/

theorem library_settled (c : Config) (look : Lookup) :
    Settles Utf8.ofString c.library [look "LIBKET_PATH", look "KET_LIBRARY_PATH"]
      (c.withOverrides look).library := by
  rw [withOverrides, Lookup.library?]
  cases h : look.get libraryVariable with
  | some v => exact .top h
  | none =>
    refine .skip h ?_
    cases h' : look.get libraryAlias with
    | some v => exact .top h'
    | none => exact .skip h' .bare

/-- A configuration with the variables of a lookup over it. -/
structure Overlaid (c : Config) (look : Lookup) (c' : Config) : Prop where
  library : Settles Utf8.ofString c.library [look "LIBKET_PATH", look "KET_LIBRARY_PATH"] c'.library
  init : Settles id c.symbols.init [look "KET_INIT_SYMBOL"] c'.symbols.init
  finalize : Settles id c.symbols.finalize [look "KET_FINALIZE_SYMBOL"] c'.symbols.finalize

theorem overlaid (c : Config) (look : Lookup) : Overlaid c look (c.withOverrides look) :=
  ⟨library_settled c look, settles_one look initVariable c.symbols.init,
    settles_one look finalizeVariable c.symbols.finalize⟩

/-- The fields of a file, with a default for each that it does not give. -/
def FromFile (files : Files) (path : Bytes) (c : Config) : Prop :=
  ∃ s d es, files.read path = .ok s ∧ Yaml.Document.ofText s = .ok d ∧ d.rootEntries? = some es ∧
    c.library = ((d.given? "library" es).map Utf8.encode).getD (Utf8.ofString "libket.so") ∧
    c.symbols.init =
      ((d.given? "init" (d.inside "symbols" es)).map String.ofList).getD "ket_init_new" ∧
    c.symbols.finalize =
      ((d.given? "finalize" (d.inside "symbols" es)).map String.ofList).getD "ket_init_free"

theorem fromFile {files : Files} {path : Bytes} {c : Config} (h : ofFile files path = .ok c) :
    FromFile files path c := by
  obtain ⟨s, d, es, hs, hd, he, -, rfl, -⟩ := ofFile_ok h
  exact ⟨s, d, es, hs, hd, he, rfl, rfl, rfl⟩

/-! ## Which variables matter -/

section Agree

variable {look look' : Lookup}

/-- Two lookups have the same text under a name, empty texts aside. -/
def Agree (look look' : Lookup) (name : String) : Prop :=
  (look name).filter (· ≠ "") = (look' name).filter (· ≠ "")

theorem library?_congr (h : Agree look look' "LIBKET_PATH")
    (h' : look.get "LIBKET_PATH" = none → Agree look look' "KET_LIBRARY_PATH") :
    look.library? = look'.library? := by
  have hget : look.get libraryVariable = look'.get libraryVariable := h
  rw [Lookup.library?, Lookup.library?, ← hget]
  cases hv : look.get libraryVariable with
  | some v => rfl
  | none =>
    have halias : look.get libraryAlias = look'.get libraryAlias := h' hv
    rw [halias]

theorem library_congr (c : Config) (h : look.library? = look'.library?) :
    (c.withOverrides look).library = (c.withOverrides look').library := by
  rw [withOverrides, withOverrides, h]

theorem init_congr (c : Config) (h : Agree look look' "KET_INIT_SYMBOL") :
    (c.withOverrides look).symbols.init = (c.withOverrides look').symbols.init :=
  congrArg (·.getD c.symbols.init) h

theorem finalize_congr (c : Config) (h : Agree look look' "KET_FINALIZE_SYMBOL") :
    (c.withOverrides look).symbols.finalize = (c.withOverrides look').symbols.finalize :=
  congrArg (·.getD c.symbols.finalize) h

theorem withOverrides_congr (c : Config) (hl : look.library? = look'.library?)
    (hi : Agree look look' "KET_INIT_SYMBOL") (hf : Agree look look' "KET_FINALIZE_SYMBOL") :
    c.withOverrides look = c.withOverrides look' := by
  have hi' : look.get initVariable = look'.get initVariable := hi
  have hf' : look.get finalizeVariable = look'.get finalizeVariable := hf
  rw [withOverrides, withOverrides, hl, hi', hf']

theorem sessionConfig_congr (h : ∀ c : Config, c.withOverrides look = c.withOverrides look')
    (e : Option Bytes) : Host.sessionConfig e look = Host.sessionConfig e look' := by
  cases e with
  | none => exact h _
  | some path => exact congrArg (Config.mk path) (congrArg Config.symbols (h _))

/-- Only the variables that are asked for are read. -/
theorem withOverrides_asked (c : Config) (h : ∀ name ∈ asked look, look name = look' name) :
    c.withOverrides look = c.withOverrides look' := by
  have hagree : ∀ name ∈ asked look, Agree look look' name :=
    fun name hn => congrArg (Option.filter (· ≠ "")) (h name hn)
  refine withOverrides_congr c (library?_congr ?_ fun hnone => ?_) ?_ ?_
  · exact hagree libraryVariable (by unfold asked; split <;> simp)
  · have hnone : look.get libraryVariable = none := hnone
    exact hagree libraryAlias (by simp [asked, hnone])
  · exact hagree initVariable (by simp [asked])
  · exact hagree finalizeVariable (by simp [asked])

end Agree

section Asked

variable {look : Lookup} {name v : String}

/-- The lookup with another value under a name. -/
def Lookup.update (look : Lookup) (name v : String) : Lookup :=
  fun other => if other = name then some v else look other

theorem get_update (hv : v ≠ "") : (look.update name v).get name = some v := by
  simp [Lookup.get, Lookup.update, hv]

theorem get_update_of_ne {other : String} (h : other ≠ name) :
    (look.update name v).get other = look.get other := by
  simp [Lookup.get, Lookup.update, h]

/-- Each of them matters: with another text under it the configuration is another. -/
theorem asked_matters (c : Config) (h : name ∈ asked look) :
    ∃ v, c.withOverrides (look.update name v) ≠ c.withOverrides look := by
  -- Two texts are enough: one of them is not what the field holds.
  have hone : ∀ {α : Type} {f : String → α} (field : Config → α), f "a" ≠ f "b" →
      (∀ v, v ≠ "" → field (c.withOverrides (look.update name v)) = f v) →
      ∃ v, c.withOverrides (look.update name v) ≠ c.withOverrides look := by
    intro α f field hne hfield
    by_cases ha : field (c.withOverrides look) = f "a"
    · refine ⟨"b", fun he => hne ?_⟩
      rw [← ha, ← he, hfield "b" (by decide)]
    · refine ⟨"a", fun he => ha ?_⟩
      rw [← he, hfield "a" (by decide)]
  have hbytes : Utf8.ofString "a" ≠ Utf8.ofString "b" := by decide +kernel
  have hcases : name = libraryVariable ∨ (look.get libraryVariable = none ∧ name = libraryAlias) ∨
      name = initVariable ∨ name = finalizeVariable := by
    unfold asked at h
    cases hl : look.get libraryVariable with
    | some v => simpa [hl] using h
    | none => simpa [hl] using h
  rcases hcases with rfl | ⟨hnone, rfl⟩ | rfl | rfl
  · refine hone Config.library hbytes fun v hv => ?_
    rw [withOverrides, Lookup.library?, get_update hv, Option.some_or]
  · refine hone Config.library hbytes fun v hv => ?_
    rw [withOverrides, Lookup.library?, get_update_of_ne (by decide), hnone, Option.none_or,
      get_update hv]
  · refine hone (·.symbols.init) (f := id) (by decide) fun v hv => ?_
    simp only [withOverrides, get_update hv, Option.getD_some, id]
  · refine hone (·.symbols.finalize) (f := id) (by decide) fun v hv => ?_
    simp only [withOverrides, get_update hv, Option.getD_some, id]

/-- The variables that are asked for are those that matter, and no others. -/
theorem mem_asked_iff (c : Config) :
    name ∈ asked look ↔ ∃ look' : Lookup, (∀ other, other ≠ name → look other = look' other) ∧
      c.withOverrides look' ≠ c.withOverrides look := by
  constructor
  · intro h
    obtain ⟨v, hv⟩ := asked_matters c h
    exact ⟨look.update name v, fun other hne => by rw [Lookup.update, if_neg hne], hv⟩
  · rintro ⟨look', hsame, hne⟩
    by_contra hn
    refine hne (withOverrides_asked c fun other ho => hsame other ?_).symm
    rintro rfl
    exact hn ho

end Asked

/-! ## All sources -/

/-- Variables lie over a configuration field by field, and one that is empty does not count. A
    configuration from a file has the fields of the file and defaults, before any variable. The
    configuration of a session has the library that is asked for, whatever it is. A field
    depends on its own variables only, and on `KET_LIBRARY_PATH` only if `LIBKET_PATH` does not
    count. -/
theorem fields_settled :
    (∀ c look, Overlaid c look (c.withOverrides look)) ∧
    (∀ files path c, ofFile files path = .ok c → FromFile files path c) ∧
    (∀ e look, (Host.sessionConfig (some e) look).library = e ∧
      (Host.sessionConfig (some e) look).symbols = (Config.default.withOverrides look).symbols ∧
      Host.sessionConfig none look = Config.default.withOverrides look) ∧
    (∀ (c : Config) look look',
      (Agree look look' "LIBKET_PATH" → Agree look look' "KET_LIBRARY_PATH" →
        (c.withOverrides look).library = (c.withOverrides look').library) ∧
      (Agree look look' "KET_INIT_SYMBOL" →
        (c.withOverrides look).symbols.init = (c.withOverrides look').symbols.init) ∧
      (Agree look look' "KET_FINALIZE_SYMBOL" →
        (c.withOverrides look).symbols.finalize = (c.withOverrides look').symbols.finalize)) ∧
    (∀ look look', Agree look look' "LIBKET_PATH" → Agree look look' "KET_LIBRARY_PATH" →
      Agree look look' "KET_INIT_SYMBOL" → Agree look look' "KET_FINALIZE_SYMBOL" →
      (∀ c : Config, c.withOverrides look = c.withOverrides look') ∧
      ∀ e, Host.sessionConfig e look = Host.sessionConfig e look') ∧
    (∀ (look look' : Lookup) v, look "LIBKET_PATH" = some v → v ≠ "" →
      (∀ name, name ≠ "KET_LIBRARY_PATH" → look name = look' name) →
      (∀ c : Config, c.withOverrides look = c.withOverrides look') ∧
      ∀ e, Host.sessionConfig e look = Host.sessionConfig e look') := by
  refine ⟨overlaid, fun files path c => fromFile, fun e look => ⟨rfl, rfl, rfl⟩, ?_, ?_, ?_⟩
  · intro c look look'
    exact ⟨fun h h' => library_congr c (library?_congr h fun _ => h'), init_congr c,
      finalize_congr c⟩
  · intro look look' h h' hi hf
    have hc : ∀ c : Config, c.withOverrides look = c.withOverrides look' :=
      fun c => withOverrides_congr c (library?_congr h fun _ => h') hi hf
    exact ⟨hc, sessionConfig_congr hc⟩
  · intro look look' v hv hne hsame
    have hset : look.get libraryVariable = some v := by simp [Lookup.get, libraryVariable, hv, hne]
    have hasked : libraryAlias ∉ asked look := by
      rw [asked, hset, Option.isSome_some, if_pos rfl]
      decide
    have hc : ∀ c : Config, c.withOverrides look = c.withOverrides look' := by
      intro c
      refine withOverrides_asked c fun name hn => hsame name ?_
      rintro rfl
      exact hasked hn
    exact ⟨hc, sessionConfig_congr hc⟩

/-- Variables of which only the second name of the library and the initializer count. -/
def someVariables : Lookup
  | "LIBKET_PATH" => some ""
  | "KET_LIBRARY_PATH" => some "second"
  | "KET_INIT_SYMBOL" => some "go"
  | _ => none

/-- The first name of the library, and any value of the second. -/
def firstVariable (second : Option String) : Lookup
  | "LIBKET_PATH" => some "first"
  | "KET_LIBRARY_PATH" => second
  | _ => none

theorem variables_settle_fields :
    let c : Config := ⟨Utf8.ofString "a", .default⟩
    FromFile samples (Utf8.ofString "bare") c ∧
    (c.withOverrides someVariables).library = Utf8.ofString "second" ∧
    c.withOverrides (firstVariable none) = c.withOverrides (firstVariable (some "x")) ∧
    Host.sessionConfig (some []) (firstVariable none) =
      Host.sessionConfig (some []) (firstVariable (some "x")) := by
  intro c
  obtain ⟨hover, hfile, -, -, -, hfirst⟩ := fields_settled
  have hsecond : Settles Utf8.ofString c.library [some "", some "second"]
      (Utf8.ofString "second") := .empty (.set (by decide))
  have hsame : ∀ name, name ≠ "KET_LIBRARY_PATH" →
      firstVariable none name = firstVariable (some "x") name := by
    intro name hn
    unfold firstVariable
    split
    · rfl
    · exact absurd rfl hn
    · rfl
  obtain ⟨hc, he⟩ := hfirst (firstVariable none) (firstVariable (some "x")) "first" rfl
    (by decide) hsame
  exact ⟨hfile _ _ c ofFile_sample, (hover c someVariables).library.unique hsecond, hc c, he _⟩

end ScopedEngine.Config
