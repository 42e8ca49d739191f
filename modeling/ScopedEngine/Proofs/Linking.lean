/-
  ScopedEngine.Proofs.Linking — where the entry points of a library come from.

  A library that loads is `Linked`: the linker opened its path as an image, and its two entry
  points are what its two names stand for in that image. Loads are the only moves that make
  libraries, and the others pass them on, so every library within reach of a run is linked
  (`World.Reach.linked`). In a tree of files every image is that of the recording engine, where a
  name that is found tells which function it stands for (`names_iff`).
-/

import ScopedEngine.Proofs.World

namespace ScopedEngine

/-! ## Loads -/

/-- Both entry points are what the names stand for, in an image that the linker opened. -/
def Library.Linked (linker : Linker) (l : Library) : Prop :=
  ∃ path image, linker.openPath path = .ok image ∧ l.path = Utf8.lossyString path ∧
    image.find l.symbols.init = .ok l.entries.init ∧
    image.find l.symbols.finalize = .ok l.entries.finalize

/-- A load that succeeds has opened the image and has found both names in it. -/
theorem Loader.load_ok {linker : Linker} {path : Bytes} {s : Symbols} {entries : EntryPoints}
    (h : (Loader.load linker path s).1 = .ok entries) :
    ∃ image, linker.openPath path = .ok image ∧ image.find s.init = .ok entries.init ∧
      image.find s.finalize = .ok entries.finalize := by
  unfold load at h
  dsimp only at h
  cases hi : linker.openPath path with
  | error e => simp [hi] at h
  | ok image =>
    cases hf : image.find s.init with
    | error e => simp [hi, hf] at h
    | ok f =>
      cases hg : image.find s.finalize with
      | error e => simp [hi, hf, hg] at h
      | ok g =>
        simp only [hi, hf, hg, Except.ok.injEq] at h
        exact ⟨image, rfl, by rw [← h, hf], by rw [← h, hg]⟩

theorem Loader.loadConfig_ok {linker : Linker} {c : Config} {entries : EntryPoints}
    (h : (Loader.loadConfig linker c).1 = .ok entries) :
    (Loader.load linker c.library c.symbols).1 = .ok entries := by
  unfold loadConfig at h
  split at h
  · cases h
  · exact h

namespace Process

variable {linker : Linker} {p : Process} {l : Library} {path : Bytes} {s : Symbols} {c : Config}

theorem enrol_ok {x : Except EngineError EntryPoints × List Record}
    (h : (p.enrol path s x).1 = .ok l) :
    x.1 = .ok l.entries ∧ l.symbols = s ∧ l.path = Utf8.lossyString path := by
  unfold enrol at h
  dsimp only at h
  split at h
  · cases h
  · next entries hx =>
    cases h
    exact ⟨hx, rfl, rfl⟩

theorem enrol_shared (x : Except EngineError EntryPoints × List Record) :
    (p.enrol path s x).2.shared = p.shared := by
  obtain ⟨r, n, hr⟩ := p.enrol_changes path s x
  rw [hr]

theorem load_linked (h : (p.load linker path s).1 = .ok l) : l.Linked linker := by
  obtain ⟨hx, rfl, hpath⟩ := enrol_ok h
  obtain ⟨image, hi, hf, hg⟩ := Loader.load_ok hx
  exact ⟨path, image, hi, hpath, hf, hg⟩

theorem loadConfig_linked (h : (p.loadConfig linker c).1 = .ok l) : l.Linked linker := by
  obtain ⟨hx, hs, hpath⟩ := enrol_ok h
  obtain ⟨image, hi, hf, hg⟩ := Loader.load_ok (Loader.loadConfig_ok hx)
  rw [← hs] at hf hg
  exact ⟨c.library, image, hi, hpath, hf, hg⟩

/-- A library loaded for good was there before, or it is new and kept. -/
theorem loadShared_linked (hp : ∀ x ∈ p.shared, x.2.Linked linker) :
    (∀ l, (p.loadShared linker c).1 = .ok l → l.Linked linker) ∧
      ∀ x ∈ (p.loadShared linker c).2.shared, x.2.Linked linker := by
  unfold loadShared
  cases hf : p.findShared c with
  | some l =>
    refine ⟨fun l' hl => ?_, hp⟩
    obtain ⟨x, hx, rfl⟩ := Option.map_eq_some_iff.mp hf
    obtain rfl : x.2 = l' := Except.ok.inj hl
    exact hp x (List.mem_of_find?_eq_some hx)
  | none =>
    obtain ⟨r, n, hr⟩ := p.enrol_changes c.library c.symbols (Loader.loadConfig linker c)
    change p.loadConfig linker c = _ at hr
    cases r with
    | error e =>
      simp only [hr]
      exact ⟨nofun, hp⟩
    | ok l =>
      have hl : l.Linked linker := loadConfig_linked (congrArg Prod.fst hr)
      simp only [hr]
      refine ⟨fun l' hl' => ?_, fun x hx => ?_⟩
      · obtain rfl : l = l' := Except.ok.inj hl'
        exact hl
      · rcases List.mem_append.mp hx with hx | hx
        · exact hp x hx
        · obtain rfl := List.mem_singleton.mp hx
          exact hl

theorem Loads.linked {r : Except EngineError Library × Process} (h : p.Loads linker r)
    (hp : ∀ x ∈ p.shared, x.2.Linked linker) :
    (∀ l, r.1 = .ok l → l.Linked linker) ∧ ∀ x ∈ r.2.shared, x.2.Linked linker := by
  cases h with
  | plain path s =>
    exact ⟨fun l => load_linked, by rw [load, enrol_shared]; exact hp⟩
  | validated c =>
    exact ⟨fun l => loadConfig_linked, by rw [loadConfig, enrol_shared]; exact hp⟩
  | shared c => exact loadShared_linked hp

end Process

/-! ## Every library within reach -/

/-- The engine, if it is a library, is linked. -/
def Engine.Linked (linker : Linker) : Engine → Prop
  | .library l => l.Linked linker
  | .probe _ _ => True

namespace World

/-- Every engine that can be called is linked. -/
structure Linked (linker : Linker) (w : World) : Prop where
  engines : ∀ e ∈ w.engines, e.Linked linker
  held : ∀ s ∈ w.held, s.engine.Linked linker
  shared : ∀ x ∈ w.process.shared, x.2.Linked linker

variable {linker : Linker} {w w' : World}

theorem Move.linked (hm : Move linker w w') (h : w.Linked linker) : w'.Linked linker := by
  cases hm with
  | @load _ r hl =>
    obtain ⟨hnew, hshared⟩ := hl.linked h.shared
    refine ⟨fun e he => ?_, h.held, hshared⟩
    obtain ⟨r, q⟩ := r
    cases r with
    | error _ => exact h.engines e he
    | ok l =>
      rcases List.mem_cons.mp he with rfl | he
      · exact hnew l rfl
      · exact h.engines e he
  | probe p es held probe =>
    exact ⟨List.forall_mem_cons.mpr ⟨trivial, h.engines⟩, h.held, h.shared⟩
  | forget hsub => exact ⟨fun e he => h.engines e (hsub he), h.held, h.shared⟩
  | opens he hs =>
    obtain ⟨rfl, probes, rfl⟩ := Session.start_returned hs
    exact ⟨h.engines, List.forall_mem_cons.mpr ⟨h.engines _ he, h.held⟩, h.shared⟩
  | refuses _ hs =>
    obtain rfl | ⟨probes, rfl⟩ := Session.start_panicked hs
    · exact h
    · exact ⟨h.engines, h.held, h.shared⟩
  | drop p es s held =>
    refine ⟨h.engines, (List.forall_mem_cons.mp h.held).2, ?_⟩
    cases hs : s.state with
    | active =>
      obtain ⟨o, probes, hd⟩ := Session.drop_active hs p
      rw [hd]
      exact h.shared
    | finalized =>
      rw [Session.drop_finalized hs]
      exact h.shared
  | pass hp => exact ⟨h.engines, fun s hs => h.held s (hp.mem_iff.mpr hs), h.shared⟩
  | reset p es held => exact ⟨h.engines, h.held, h.shared⟩

theorem Reach.linked (h : Reach linker w) : w.Linked linker := by
  induction h with
  | refl => exact ⟨by simp [fresh], by simp [fresh], by simp [fresh, Process.fresh]⟩
  | tail _ hm ih => exact hm.linked ih

end World

/-! ## The recording engine -/

/-- The loader takes a name for that of a function, with a NUL at its end or without. -/
def Names (name function : String) : Prop :=
  (cString? (Utf8.ofString name)).toOption = some (Utf8.ofString function)

instance (name function : String) : Decidable (Names name function) :=
  inferInstanceAs (Decidable (_ = _))

/-- Every image in a tree of files is that of the recording engine. -/
theorem Linker.openPath_ofFiles {files : Files} {path : Bytes} {image : Image}
    (h : (ofFiles files).openPath path = .ok image) : ∃ shown, image = recorderImage shown := by
  unfold openPath at h
  split at h
  · cases h
  · simp only [ofFiles] at h
    split at h
    · cases h
    · split at h
      all_goals cases h
      exact ⟨_, rfl⟩

/-- In a tree of files the names of a library are found in the image of the recording engine. -/
theorem Library.Linked.finds {files : Files} {l : Library} (h : l.Linked (.ofFiles files)) :
    ∃ shown, (Linker.recorderImage shown).find l.symbols.init = .ok l.entries.init ∧
      (Linker.recorderImage shown).find l.symbols.finalize = .ok l.entries.finalize := by
  obtain ⟨path, image, hopen, -, hi, hf⟩ := h
  obtain ⟨shown, rfl⟩ := Linker.openPath_ofFiles hopen
  exact ⟨shown, hi, hf⟩

/-- A name that is found is one of those exported, and stands for what is exported under it. -/
theorem recorderImage_find {shown name : String} {f : EntryPoint}
    (h : (Linker.recorderImage shown).find name = .ok f) :
    ∃ e ∈ Recorder.exports, Names name e.1 ∧ e.2 = f := by
  unfold Image.find at h
  split at h
  · cases h
  · next n hn =>
    split at h
    · next g hg =>
      cases h
      obtain ⟨e, he, rfl⟩ := Option.map_eq_some_iff.mp hg
      have hname : Utf8.ofString e.1 = n := by simpa using List.find?_some he
      exact ⟨e, List.mem_of_find?_eq_some he, by rw [Names, hn, hname]; rfl, rfl⟩
    · cases h

/-- A name that is found names one exported function, and no other. -/
theorem recorderImage_names {shown name : String} {f : EntryPoint}
    (h : (Linker.recorderImage shown).find name = .ok f) :
    ∃ e ∈ Recorder.exports, e.2 = f ∧
      ∀ function, Names name function ↔ Utf8.ofString e.1 = Utf8.ofString function := by
  obtain ⟨e, he, hn, rfl⟩ := recorderImage_find h
  refine ⟨e, he, rfl, fun function => ?_⟩
  rw [Names, show (cString? (Utf8.ofString name)).toOption = _ from hn, Option.some.injEq]

/-- What a name stands for tells which function it names. -/
theorem names_iff {shown name : String} {f : EntryPoint}
    (h : (Linker.recorderImage shown).find name = .ok f) :
    (Names name "ket_init_new" ∨ Names name "ket_begin" ↔ f = .init) ∧
      (Names name "mock_ket_reset" ↔ f = .reset) := by
  obtain ⟨e, he, rfl, hnames⟩ := recorderImage_names h
  -- No two exported names are the same bytes.
  have hall : ∀ e ∈ Recorder.exports,
      (Utf8.ofString e.1 = Utf8.ofString "ket_init_new" ∨
        Utf8.ofString e.1 = Utf8.ofString "ket_begin" ↔ e.2 = .init) ∧
      (Utf8.ofString e.1 = Utf8.ofString "mock_ket_reset" ↔ e.2 = .reset) := by decide +kernel
  rw [hnames, hnames, hnames]
  exact hall e he

theorem names_finalize_iff {shown name : String} {f : EntryPoint}
    (h : (Linker.recorderImage shown).find name = .ok f) :
    Names name "ket_init_free" ∨ Names name "ket_end" ↔ f = .finalize := by
  obtain ⟨e, he, rfl, hnames⟩ := recorderImage_names h
  have hall : ∀ e ∈ Recorder.exports,
      (Utf8.ofString e.1 = Utf8.ofString "ket_init_free" ∨
        Utf8.ofString e.1 = Utf8.ofString "ket_end" ↔ e.2 = .finalize) := by decide +kernel
  rw [hnames, hnames]
  exact hall e he

/-- The loader takes a name for one function, so not for any that is neither of two. -/
theorem Names.excludes {name f f' g : String} (h : Names name f ∨ Names name f')
    (hf : Utf8.ofString f ≠ Utf8.ofString g) (hf' : Utf8.ofString f' ≠ Utf8.ofString g) :
    ¬ Names name g := by
  intro hg
  rcases h with hn | hn
  · exact hf (Option.some.inj (hn.symm.trans hg))
  · exact hf' (Option.some.inj (hn.symm.trans hg))

end ScopedEngine
