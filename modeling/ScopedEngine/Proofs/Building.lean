/-
  ScopedEngine.Proofs.Building — every way of building a configuration gives a valid one.

  `Sound` is what `validate` looks for (`validate_eq_ok`). The defaults have it, a file is only
  read with it, and variables laid over keep it, since a value that is empty does not count and
  the environment of a process holds no NUL. Main result:
  - `built_is_valid`: what is built in these ways is valid and never refused by a load, and a
    file that states anything else is refused.
-/

import ScopedEngine.Config.Overrides
import ScopedEngine.Proofs.Documents
import ScopedEngine.Proofs.Encoding
import ScopedEngine.Proofs.Sharing

namespace ScopedEngine

/-! ## What makes a configuration valid -/

namespace Config

/-- A name that can be looked up: not empty, and without a NUL. -/
def Nameable (name : String) : Prop := name ≠ "" ∧ '\x00' ∉ name.toList

structure Sound (c : Config) : Prop where
  library : c.library ≠ []
  init : Nameable c.symbols.init
  finalize : Nameable c.symbols.finalize

variable {c : Config} {look : Lookup}

theorem symbolFault?_eq_none {role : Role} {name : String} :
    symbolFault? role name = none ↔ Nameable name := by
  unfold symbolFault? Nameable
  by_cases he : name = ""
  · simp [he]
  · by_cases hn : '\x00' ∈ name.toList <;> simp [he, hn]

theorem fault?_eq_none : c.fault? = none ↔ c.Sound := by
  unfold fault?
  by_cases hl : c.library = []
  · simp only [if_pos hl, reduceCtorEq, false_iff]
    exact fun h => h.library hl
  · rw [if_neg hl, Option.or_eq_none_iff, symbolFault?_eq_none, symbolFault?_eq_none]
    exact ⟨fun h => ⟨hl, h.1, h.2⟩, fun h => ⟨h.init, h.finalize⟩⟩

theorem validate_eq_ok : c.validate = .ok () ↔ c.Sound := by
  rw [← fault?_eq_none, validate]
  cases c.fault? with
  | none => simp
  | some f => simp

/-! ## Variables -/

/-- Every symbol name that a lookup gives is without a NUL. -/
def Lookup.NulFree (look : Lookup) : Prop :=
  ∀ name ∈ ["KET_INIT_SYMBOL", "KET_FINALIZE_SYMBOL"], ∀ v, look name = some v → '\x00' ∉ v.toList

/-- The environment of a process: every value is a C string. -/
def Environment.IsProcess (env : Environment) : Prop := ∀ x ∈ env, (0 : UInt8) ∉ x.2

theorem Environment.IsProcess.nulFree {env : Environment} (h : env.IsProcess) :
    env.lookup.NulFree := by
  intro name _ v hv hnul
  obtain ⟨b, hb, hv⟩ := Option.bind_eq_some_iff.mp hv
  obtain ⟨cs, hcs, rfl⟩ := Option.map_eq_some_iff.mp hv
  obtain ⟨l₁, l₂, henv, -⟩ := List.lookup_eq_some_iff.mp hb
  have hmem : (name, b) ∈ env := by
    rw [henv]
    simp
  apply h _ hmem
  show (0 : UInt8) ∈ b
  rw [Utf8.decode?_eq_some.mp hcs]
  exact Utf8.zero_mem_encode (by simpa using hnul)

theorem encode_ne_nil {s : String} (h : s ≠ "") : Utf8.ofString s ≠ [] := by
  intro he
  have hd : Utf8.decode? [] = some s.toList := Utf8.decode?_eq_some.mpr he.symm
  have hs : s.toList = [] := (Option.some.inj hd).symm
  exact h (String.toList_eq_nil_iff.mp hs)

theorem Lookup.get_eq_some {name v : String} :
    look.get name = some v ↔ look name = some v ∧ v ≠ "" := by
  simp [Lookup.get, Option.filter_eq_some_iff]

theorem Sound.library_ne_nil (h : c.Sound) : (c.withOverrides look).library ≠ [] := by
  unfold withOverrides
  cases hl : look.library? with
  | none => exact h.library
  | some path =>
    have hpath : path ≠ "" := by
      rcases Option.or_eq_some_iff.mp hl with hv | ⟨-, hv⟩
      · exact (Lookup.get_eq_some.mp hv).2
      · exact (Lookup.get_eq_some.mp hv).2
    exact encode_ne_nil hpath

/-- A value that counts is as good a name as the one underneath. -/
theorem nameable_getD {name under : String} (hn : ∀ v, look name = some v → '\x00' ∉ v.toList)
    (h : Nameable under) : Nameable ((look.get name).getD under) := by
  cases hv : look.get name with
  | none => exact h
  | some v =>
    obtain ⟨hl, hne⟩ := Lookup.get_eq_some.mp hv
    exact ⟨hne, hn v hl⟩

theorem Sound.withOverrides (h : c.Sound) (hn : look.NulFree) : (c.withOverrides look).Sound where
  library := h.library_ne_nil
  init := nameable_getD (hn _ (by simp [initVariable])) h.init
  finalize := nameable_getD (hn _ (by simp [finalizeVariable])) h.finalize

/-! ## Ways of building -/

/-- Configurations that a program can come to. -/
inductive Built : Config → Prop
  | default : Built .default
  | withLibrary {path : Bytes} (h : path ≠ []) : Built (.withLibrary path)
  | file {files : Files} {path : Bytes} {c : Config} (h : ofFile files path = .ok c) : Built c
  | overrides {c : Config} {look : Lookup} (h : Built c) (hn : look.NulFree) :
      Built (c.withOverrides look)

theorem default_symbols_nameable :
    Nameable Symbols.default.init ∧ Nameable Symbols.default.finalize := by
  unfold Nameable Symbols.default
  decide

theorem Built.sound (h : Built c) : c.Sound := by
  obtain ⟨hi, hf⟩ := default_symbols_nameable
  induction h with
  | default => exact ⟨by decide, hi, hf⟩
  | withLibrary h => exact ⟨h, hi, hf⟩
  | file h =>
    obtain ⟨s, d, es, -, -, -, -, -, hv⟩ := ofFile_ok h
    exact validate_eq_ok.mp hv
  | overrides _ hn ih => exact ih.withOverrides hn

end Config

/-! ## Loading what was built -/

/-- A load refuses a configuration only for a fault of its own. -/
theorem Loader.loadConfig_fault {linker : Linker} {c : Config} {f : ConfigFault}
    (h : (Loader.loadConfig linker c).1 = .error (.config f)) : c.fault? = some f := by
  unfold loadConfig Config.validate at h
  cases hf : c.fault? with
  | some g =>
    simp only [hf, Except.error.injEq, EngineError.config.injEq] at h
    rw [h]
  | none =>
    simp only [hf] at h
    unfold load at h
    dsimp only at h
    repeat' split at h
    all_goals cases h

namespace Config

variable {c : Config}

theorem Sound.loads (h : c.Sound) (linker : Linker) (p : Process) (f : ConfigFault) :
    (p.loadConfig linker c).1 ≠ .error (.config f) ∧
      (p.loadShared linker c).1 ≠ .error (.config f) := by
  have hload : (Loader.loadConfig linker c).1 ≠ .error (.config f) := by
    intro hl
    have hf := Loader.loadConfig_fault hl
    rw [fault?_eq_none.mpr h] at hf
    cases hf
  constructor
  · intro hp
    cases hl : (Loader.loadConfig linker c).1 with
    | error e =>
      rw [Process.loadConfig_error hl] at hp
      obtain rfl : e = .config f := Except.error.inj hp
      exact hload hl
    | ok entries =>
      rw [Process.loadConfig_ok hl] at hp
      cases hp
  · intro hp
    rcases p.loadShared_cases linker c with ⟨x, -, -, hs⟩ | ⟨-, ⟨e, he, hs⟩ | ⟨entries, -, hs⟩⟩
    · rw [hs] at hp
      cases hp
    · rw [hs] at hp
      obtain rfl : e = .config f := Except.error.inj hp
      exact hload he
    · rw [hs] at hp
      cases hp

/-- What a document states is refused if it is not sound, with its first fault. -/
theorem ofFile_refuses {files : Files} {path : Bytes} {s : List Char} {d : Yaml.Document}
    (hs : files.read path = .ok s) (hd : Yaml.Document.ofText s = .ok d) (hc : ofDocument d = .ok c)
    (h : ¬ c.Sound) : ∃ f, c.fault? = some f ∧ ofFile files path = .error (.config f) := by
  obtain ⟨f, hf⟩ := Option.ne_none_iff_exists'.mp fun hn => h (fault?_eq_none.mp hn)
  refine ⟨f, hf, ?_⟩
  simp only [ofFile, hs, ofText, hd, hc, validate, hf]
  rfl

/-- Whatever is built from the defaults, a path that is not empty or a file, by any number of
    lookups laid over it, as long as they give names without NUL, is valid, and no load of it
    fails for its configuration. The environment of a process gives such names. A file with an
    empty library, or a name that is empty or holds a NUL, is refused. -/
theorem built_is_valid :
    (∀ c, Built c → c.validate = .ok () ∧ ∀ linker (p : Process) f,
      (p.loadConfig linker c).1 ≠ .error (.config f) ∧
        (p.loadShared linker c).1 ≠ .error (.config f)) ∧
    (∀ env : Environment, env.IsProcess →
      Built (ofEnvironment env) ∧ ∀ c, Built c → Built (c.withEnvironment env)) ∧
    (∀ files path s d c, files.read path = .ok s → Yaml.Document.ofText s = .ok d →
      ofDocument d = .ok c →
      (c.library = [] ∨ ∃ name ∈ [c.symbols.init, c.symbols.finalize],
        name = "" ∨ '\x00' ∈ name.toList) →
      ∃ f, c.fault? = some f ∧ ofFile files path = .error (.config f)) := by
  refine ⟨fun c h => ⟨validate_eq_ok.mpr h.sound, h.sound.loads⟩,
    fun env h => ⟨.overrides .default h.nulFree, fun c hc => .overrides hc h.nulFree⟩, ?_⟩
  intro files path s d c hs hd hc hbad
  refine ofFile_refuses hs hd hc fun h => ?_
  rcases hbad with hl | ⟨name, hn, hbad⟩
  · exact h.library hl
  · have hname : Nameable name := by
      rcases List.mem_pair.mp hn with rfl | rfl
      · exact h.init
      · exact h.finalize
    exact hbad.elim hname.1 hname.2

/-- A file that states an empty library. -/
def emptyLibrary : Files :=
  ⟨.directory [(Utf8.ofString "f", .file (Utf8.ofString "library: ''\n"))], []⟩

def emptyLibraryDocument : Yaml.Document where
  root := some (.mapping .start
    [(.scalar .start ⟨"library".toList, .plain, none⟩, .scalar ⟨0, 9, 9⟩ ⟨[], .quoted, none⟩)])
  definitions := []

theorem built_or_refused :
    let env : Environment := [("KET_INIT_SYMBOL", Utf8.ofString "go")]
    ((Config.withLibrary (Utf8.ofString "a")).withEnvironment env).validate = .ok () ∧
    ∃ f, ofFile emptyLibrary (Utf8.ofString "f") = .error (.config f) := by
  intro env
  obtain ⟨hvalid, henv, hrefused⟩ := built_is_valid
  have hprocess : ∀ x ∈ [("KET_INIT_SYMBOL", Utf8.ofString "go")], (0 : UInt8) ∉ x.2 := by decide
  have hread : emptyLibrary.read (Utf8.ofString "f") = .ok "library: ''\n".toList := by cbv
  have hdoc : Yaml.Document.ofText "library: ''\n".toList = .ok emptyLibraryDocument := by cbv
  have hstates : ofDocument emptyLibraryDocument = .ok ⟨[], .default⟩ := by rfl
  obtain ⟨f, -, hf⟩ := hrefused _ _ _ _ _ hread hdoc hstates (.inl rfl)
  exact ⟨(hvalid _ ((henv env hprocess).2 _ (.withLibrary (by decide)))).1, f, hf⟩

end Config

end ScopedEngine
