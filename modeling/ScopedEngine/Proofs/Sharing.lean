/-
  ScopedEngine.Proofs.Sharing — libraries loaded once and kept.

  A library is kept under the configuration it was loaded for, and a configuration finds it by
  components of its path and by its two names (`Config.same_iff`). `loadShared_cases` says once
  what a call can do: find a library kept, fail and keep nothing, or load a new one and keep it.
  - `shared_for_good`: over all moves, in files that may change, the libraries kept are apart, valid
    and as their configurations say; none is removed or replaced, and one that is found costs
    nothing.
  - `shared_as_if_alone`: in files that do not change, a call comes to what a load by itself comes
    to, unless the load fails and an equal configuration has been loaded: then to what that one
    comes to. `shared_though_refused` is a configuration for which this happens.
-/

import Mathlib.Data.List.Nodup
import ScopedEngine.Proofs.Linking
import ScopedEngine.Proofs.Spelling

namespace ScopedEngine

/-! ## Equal configurations -/

namespace Config

theorem same_iff {a b : Config} :
    a.same b = true ↔ a.symbols = b.symbols ∧ Path.components a.library = Path.components b.library := by
  simp [same, key, and_comm]

theorem same_iff_key {a b : Config} : a.same b = true ↔ a.key = b.key := by simp [same]

theorem same_refl (a : Config) : a.same a = true := same_iff_key.mpr rfl

theorem same_symm {a b : Config} (h : a.same b = true) : b.same a = true :=
  same_iff_key.mpr (same_iff_key.mp h).symm

theorem same_trans {a b c : Config} (h : a.same b = true) (h' : b.same c = true) :
    a.same c = true :=
  same_iff_key.mpr ((same_iff_key.mp h).trans (same_iff_key.mp h'))

/-- Equal configurations have the same faults. -/
theorem fault?_eq_of_same {a b : Config} (h : a.same b = true) : a.fault? = b.fault? := by
  obtain ⟨hs, hc⟩ := same_iff.mp h
  have hempty : a.library = [] ↔ b.library = [] := by
    rw [← Path.components_eq_nil_iff, hc, Path.components_eq_nil_iff]
  simp only [fault?, hs, hempty]

theorem validate_eq_of_same {a b : Config} (h : a.same b = true) : a.validate = b.validate := by
  rw [validate, validate, fault?_eq_of_same h]

end Config

/-! ## What a call can do -/

namespace Process

variable {linker : Linker} {p : Process} {c : Config}

/-- The library that a load makes. -/
def newLibrary (p : Process) (c : Config) (entries : EntryPoints) : Library :=
  ⟨p.loads, Utf8.lossyString c.library, c.symbols, entries⟩

/-- The process when a new library has been loaded. -/
def afterLoad (p : Process) (linker : Linker) (c : Config) : Process :=
  { p with log := p.log ++ (Loader.loadConfig linker c).2, loads := p.loads + 1 }

theorem loadConfig_error {e : EngineError} (h : (Loader.loadConfig linker c).1 = .error e) :
    p.loadConfig linker c = (.error e, p.say (Loader.loadConfig linker c).2) := by
  simp only [loadConfig, enrol, h]

theorem loadConfig_ok {entries : EntryPoints} (h : (Loader.loadConfig linker c).1 = .ok entries) :
    p.loadConfig linker c = (.ok (p.newLibrary c entries), p.afterLoad linker c) := by
  simp only [loadConfig, enrol, h]
  rfl

theorem findShared_eq_some {l : Library} (h : p.findShared c = some l) :
    ∃ x ∈ p.shared, x.1.same c = true ∧ x.2 = l := by
  obtain ⟨x, hx, rfl⟩ := Option.map_eq_some_iff.mp h
  have hs := List.find?_some hx
  exact ⟨x, List.mem_of_find?_eq_some hx, hs, rfl⟩

/-- Only the libraries under configurations of one hash need to be looked at. -/
theorem findShared_hash (p : Process) (c : Config) :
    p.findShared c =
      ((p.shared.filter (·.1.hash = c.hash)).find? fun e => e.1.same c).map (·.2) := by
  have hfind : (fun e : Config × Library => e.1.same c) =
      fun e => decide (decide (e.1.hash = c.hash) = true ∧ e.1.same c = true) := by
    funext e
    cases hs : e.1.same c with
    | false => simp
    | true => simp [Config.hash_eq_of_same hs]
  rw [findShared, List.find?_filter, ← hfind]

theorem findShared_eq_none : p.findShared c = none ↔ ∀ x ∈ p.shared, x.1.same c = false := by
  simp [findShared]

/-- All that a call can do: an equal configuration has a library, which is returned and nothing
    else is done; there is none and the load fails; there is none and a new library is kept. -/
theorem loadShared_cases (p : Process) (linker : Linker) (c : Config) :
    (∃ x ∈ p.shared, x.1.same c = true ∧ p.loadShared linker c = (.ok x.2, p)) ∨
    (∀ x ∈ p.shared, x.1.same c = false) ∧
      ((∃ e, (Loader.loadConfig linker c).1 = .error e ∧
          p.loadShared linker c = (.error e, p.say (Loader.loadConfig linker c).2)) ∨
        ∃ entries, (Loader.loadConfig linker c).1 = .ok entries ∧
          p.loadShared linker c = (.ok (p.newLibrary c entries),
            { p.afterLoad linker c with shared := p.shared ++ [(c, p.newLibrary c entries)] })) := by
  unfold loadShared
  cases hf : p.findShared c with
  | some l =>
    obtain ⟨x, hx, hs, rfl⟩ := findShared_eq_some hf
    exact .inl ⟨x, hx, hs, rfl⟩
  | none =>
    refine .inr ⟨findShared_eq_none.mp hf, ?_⟩
    cases hl : (Loader.loadConfig linker c).1 with
    | error e => exact .inl ⟨e, rfl, by simp only [loadConfig_error hl]⟩
    | ok entries => exact .inr ⟨entries, rfl, by simp only [loadConfig_ok hl]; rfl⟩

/-- A configuration that has no library is tried. -/
theorem loadShared_tries (h : ∀ x ∈ p.shared, x.1.same c = false) (linker : Linker) :
    (p.loadShared linker c).1 = (p.loadConfig linker c).1 := by
  rcases p.loadShared_cases linker c with ⟨x, hx, hs, -⟩ | ⟨-, ⟨e, he, hl⟩ | ⟨entries, he, hl⟩⟩
  · rw [h x hx] at hs
    cases hs
  · rw [hl, loadConfig_error he]
  · rw [hl, loadConfig_ok he]

theorem loadConfig_valid {entries : EntryPoints} (h : (Loader.loadConfig linker c).1 = .ok entries) :
    c.validate = .ok () := by
  unfold Loader.loadConfig at h
  split at h
  · cases h
  · next hv => exact hv

/-! ## Kept for good -/

/-- The libraries kept: no two under equal configurations, no two the same, and each as its valid
    configuration says. -/
structure Shelf (p : Process) : Prop where
  keys : (p.shared.map (·.1.key)).Nodup
  ids : (p.shared.map (·.2.id)).Nodup
  /-- New libraries differ from all that are kept. -/
  old : ∀ x ∈ p.shared, x.2.id < p.loads
  valid : ∀ x ∈ p.shared, x.1.validate = .ok ()
  symbols : ∀ x ∈ p.shared, x.2.symbols = x.1.symbols
  path : ∀ x ∈ p.shared, x.2.path = Utf8.lossyString x.1.library

namespace Shelf

/-- Nothing but the libraries kept and their number counts. -/
theorem of_eq {q : Process} (h : p.Shelf) (hs : q.shared = p.shared) (hn : p.loads ≤ q.loads) :
    q.Shelf := by
  refine ⟨hs ▸ h.keys, hs ▸ h.ids, fun x hx => ?_, hs ▸ h.valid, hs ▸ h.symbols, hs ▸ h.path⟩
  exact Nat.lt_of_lt_of_le (h.old x (hs ▸ hx)) hn

/-- A library that is kept is found under every equal configuration. -/
theorem finds (h : p.Shelf) {x : Config × Library} (hx : x ∈ p.shared) (hs : x.1.same c = true)
    (linker : Linker) : p.loadShared linker c = (.ok x.2, p) := by
  rcases p.loadShared_cases linker c with ⟨y, hy, hs', hl⟩ | ⟨hnone, -⟩
  · have hkey := Config.same_iff_key.mp (Config.same_trans hs' (Config.same_symm hs))
    rw [hl, List.inj_on_of_nodup_map h.keys hy hx hkey]
  · rw [hnone x hx] at hs
    cases hs

theorem add (h : p.Shelf) {entries : EntryPoints}
    (hl : (Loader.loadConfig linker c).1 = .ok entries)
    (hnone : ∀ x ∈ p.shared, x.1.same c = false) :
    Shelf { p.afterLoad linker c with shared := p.shared ++ [(c, p.newLibrary c entries)] } := by
  have hmem : ∀ {P : Config × Library → Prop}, (∀ x ∈ p.shared, P x) →
      P (c, p.newLibrary c entries) → ∀ x ∈ p.shared ++ [(c, p.newLibrary c entries)], P x := by
    intro P hold hnew x hx
    rcases List.mem_append.mp hx with hx | hx
    · exact hold x hx
    · exact List.mem_singleton.mp hx ▸ hnew
  refine ⟨?_, ?_, hmem (fun x hx => Nat.lt_succ_of_lt (h.old x hx)) (Nat.lt_succ_self _),
    hmem h.valid (loadConfig_valid hl), hmem h.symbols rfl, hmem h.path rfl⟩
  · rw [List.map_append, List.nodup_append]
    refine ⟨h.keys, List.nodup_singleton _, ?_⟩
    intro k hk k' hk' he
    obtain ⟨x, hx, rfl⟩ := List.mem_map.mp hk
    obtain rfl : k' = c.key := by simpa using hk'
    have := hnone x hx
    rw [Config.same_iff_key.mpr he] at this
    cases this
  · rw [List.map_append, List.nodup_append]
    refine ⟨h.ids, List.nodup_singleton _, ?_⟩
    intro k hk k' hk' he
    obtain ⟨x, hx, rfl⟩ := List.mem_map.mp hk
    obtain rfl : k' = p.loads := by simpa [newLibrary] using hk'
    have := h.old x hx
    omega

end Shelf

theorem enrol_loads (path : Bytes) (s : Symbols) (x : Except EngineError EntryPoints × List Record) :
    p.loads ≤ (p.enrol path s x).2.loads := by
  unfold enrol
  dsimp only
  split
  · exact Nat.le_refl _
  · exact Nat.le_succ _

/-- A load keeps what is kept. -/
theorem Loads.shelf {r : Except EngineError Library × Process} (h : p.Loads linker r)
    (hp : p.Shelf) : r.2.Shelf ∧ p.shared <+: r.2.shared := by
  cases h with
  | plain path s =>
    exact ⟨hp.of_eq (enrol_shared _) (enrol_loads _ _ _), (enrol_shared _).symm ▸ List.prefix_rfl⟩
  | validated c =>
    exact ⟨hp.of_eq (enrol_shared _) (enrol_loads _ _ _), (enrol_shared _).symm ▸ List.prefix_rfl⟩
  | shared c =>
    rcases p.loadShared_cases linker c with ⟨x, -, -, hl⟩ | ⟨hnone, ⟨e, -, hl⟩ | ⟨entries, he, hl⟩⟩
    · rw [hl]
      exact ⟨hp, List.prefix_rfl⟩
    · rw [hl]
      exact ⟨hp.of_eq rfl (Nat.le_refl _), List.prefix_rfl⟩
    · rw [hl]
      exact ⟨hp.add he hnone, List.prefix_append _ _⟩

end Process

namespace World

/-- Any number of moves, in files that may change from one to the next. -/
abbrev Later : World → World → Prop := Relation.ReflTransGen fun v w => ∃ linker, Move linker v w

variable {linker : Linker} {v w : World}

theorem Move.shelf (hm : Move linker v w) (h : v.process.Shelf) :
    w.process.Shelf ∧ v.process.shared <+: w.process.shared := by
  cases hm with
  | load _ hl => exact hl.shelf h
  | probe p es held probe => exact ⟨h.of_eq rfl (Nat.le_refl _), List.prefix_rfl⟩
  | forget _ => exact ⟨h, List.prefix_rfl⟩
  | opens _ hs =>
    obtain ⟨-, probes, rfl⟩ := Session.start_returned hs
    exact ⟨h.of_eq rfl (Nat.le_refl _), List.prefix_rfl⟩
  | refuses _ hs =>
    obtain rfl | ⟨probes, rfl⟩ := Session.start_panicked hs
    · exact ⟨h, List.prefix_rfl⟩
    · exact ⟨h.of_eq rfl (Nat.le_refl _), List.prefix_rfl⟩
  | drop p es s held =>
    show (s.drop p).2.Shelf ∧ p.shared <+: (s.drop p).2.shared
    cases hs : s.state with
    | active =>
      obtain ⟨o, probes, hd⟩ := Session.drop_active hs p
      rw [hd]
      exact ⟨h.of_eq rfl (Nat.le_refl _), List.prefix_rfl⟩
    | finalized =>
      rw [Session.drop_finalized hs]
      exact ⟨h, List.prefix_rfl⟩
  | pass _ => exact ⟨h, List.prefix_rfl⟩
  | reset p es held => exact ⟨h.of_eq rfl (Nat.le_refl _), List.prefix_rfl⟩

theorem Later.shelf (hl : Later v w) (h : v.process.Shelf) :
    w.process.Shelf ∧ v.process.shared <+: w.process.shared := by
  induction hl with
  | refl => exact ⟨h, List.prefix_rfl⟩
  | tail _ hm ih =>
    obtain ⟨linker, hm⟩ := hm
    obtain ⟨hs, hp⟩ := hm.shelf ih.1
    exact ⟨hs, ih.2.trans hp⟩

theorem fresh_shelf : fresh.process.Shelf := by
  refine ⟨?_, ?_, ?_, ?_, ?_, ?_⟩ <;> simp [fresh, Process.fresh]

/-- Shared libraries are kept for good, in files that may change and whatever else is done. The
    configurations they are kept under are pairwise unequal and valid, and each library belongs to
    one of them, with its names and its path. None is removed or replaced: any equal configuration
    is given that library whatever the files have become, and nothing else happens. A call that
    fails keeps nothing, and the next one tries again; one that succeeds where no equal
    configuration has a library keeps one more. A library that is looked up by the hash of its
    configuration is found all the same. -/
theorem shared_for_good (hv : Later fresh v) (hw : Later v w) :
    w.process.Shelf ∧
    (∀ a b : Config, a.same b = true ↔
      a.symbols = b.symbols ∧ Path.components a.library = Path.components b.library) ∧
    (∀ c : Config, c.validate ≠ .ok () → ∀ x ∈ w.process.shared, x.1.same c = false) ∧
    v.process.shared <+: w.process.shared ∧
    (∀ x ∈ v.process.shared, ∀ c, x.1.same c = true → ∀ linker,
      w.process.loadShared linker c = (.ok x.2, w.process)) ∧
    (∀ linker c e q, w.process.loadShared linker c = (.error e, q) →
      (∃ records, q = w.process.say records) ∧
      ∀ linker', (q.loadShared linker' c).1 = (q.loadConfig linker' c).1) ∧
    (∀ linker c l q, (∀ x ∈ w.process.shared, x.1.same c = false) →
      w.process.loadShared linker c = (.ok l, q) →
      q.shared = w.process.shared ++ [(c, l)] ∧ q.calls = w.process.calls) ∧
    (∀ c, w.process.findShared c =
      ((w.process.shared.filter (·.1.hash = c.hash)).find? fun e => e.1.same c).map (·.2)) := by
  obtain ⟨hshelf, -⟩ := hv.shelf fresh_shelf
  obtain ⟨hshelf', hgrow⟩ := hw.shelf hshelf
  refine ⟨hshelf', ?_, ?_, hgrow, ?_, ?_, ?_, w.process.findShared_hash⟩
  · intro a b
    exact Config.same_iff
  · intro c hc x hx
    by_contra hs
    have hvalid : x.1.validate = c.validate := Config.validate_eq_of_same (by simpa using hs)
    exact hc (hvalid ▸ hshelf'.valid x hx)
  · intro x hx c hs linker
    exact hshelf'.finds (hgrow.subset hx) hs linker
  · intro linker c e q hl
    rcases w.process.loadShared_cases linker c with
      ⟨x, -, -, hc⟩ | ⟨hnone, ⟨e', -, hc⟩ | ⟨entries, -, hc⟩⟩
    · cases hc.symm.trans hl
    · cases hc.symm.trans hl
      exact ⟨⟨_, rfl⟩, Process.loadShared_tries (p := w.process.say _) hnone⟩
    · cases hc.symm.trans hl
  · intro linker c l q hnone hl
    rcases w.process.loadShared_cases linker c with
      ⟨x, hx, hs, -⟩ | ⟨-, ⟨e', -, hc⟩ | ⟨entries, -, hc⟩⟩
    · rw [hnone x hx] at hs
      cases hs
    · cases hc.symm.trans hl
    · cases hc.symm.trans hl
      exact ⟨rfl, rfl⟩

/-- The library stays under the same name when the files are gone, and another spelling finds it. -/
theorem kept_though_gone :
    let here := Linker.ofFiles ⟨.directory [([0x61], .image "a")], []⟩
    let gone := Linker.ofFiles ⟨.directory [], []⟩
    let v := fresh.loaded (Process.fresh.loadShared here (.withLibrary [0x2F, 0x61]))
    let w := v.loaded (v.process.loadShared gone (.withLibrary [0x2F, 0x62]))
    let l : Library := ⟨0, "/a", .default, ⟨.init, .finalize⟩⟩
    Later fresh v ∧ Later v w ∧ v.process.shared = [(.withLibrary [0x2F, 0x61], l)] ∧
      w.process.loadShared gone (.withLibrary [0x2F, 0x2E, 0x2F, 0x61]) = (.ok l, w.process) := by
  intro here gone v w l
  have hv : Later fresh v := .single ⟨here, .load _ (.shared _)⟩
  have hw : Later v w := .single ⟨gone, .load _ (.shared _)⟩
  have hl : v.process.shared = [(.withLibrary [0x2F, 0x61], l)] := by decide +kernel
  exact ⟨hv, hw, hl, (shared_for_good hv hw).2.2.2.2.1 _ (hl ▸ List.mem_singleton_self _) _
    (by decide +kernel) gone⟩

end World

/-! ## As if loaded alone -/

namespace Process

/-- Calls one after the other. -/
def shareAll (p : Process) (linker : Linker) (cs : List Config) : Process :=
  cs.foldl (fun p c => (p.loadShared linker c).2) p

/-- What is kept after calls with these configurations: what some of them loads, and for all of
    them that load something under an equal configuration. -/
structure Keeps (linker : Linker) (past : List Config) (p : Process) : Prop where
  kept : ∀ x ∈ p.shared, x.1 ∈ past ∧ (Loader.loadConfig linker x.1).1 = .ok x.2.entries ∧
    x.2.symbols = x.1.symbols
  found : ∀ d ∈ past, ∀ entries, (Loader.loadConfig linker d).1 = .ok entries →
    ∃ x ∈ p.shared, x.1.same d = true

variable {linker : Linker} {past : List Config} {p : Process}

theorem Keeps.call (h : Keeps linker past p) (c : Config) :
    Keeps linker (past ++ [c]) (p.loadShared linker c).2 := by
  have hfound : ∀ {shared : List (Config × Library)}, p.shared ⊆ shared →
      (∀ entries, (Loader.loadConfig linker c).1 = .ok entries → ∃ x ∈ shared, x.1.same c = true) →
      ∀ d ∈ past ++ [c], ∀ entries, (Loader.loadConfig linker d).1 = .ok entries →
        ∃ x ∈ shared, x.1.same d = true := by
    intro shared hsub hc d hd entries he
    rcases List.mem_append.mp hd with hd | hd
    · obtain ⟨x, hx, hs⟩ := h.found d hd entries he
      exact ⟨x, hsub hx, hs⟩
    · obtain rfl := List.mem_singleton.mp hd
      exact hc entries he
  have hkept : ∀ x ∈ p.shared, x.1 ∈ past ++ [c] ∧
      (Loader.loadConfig linker x.1).1 = .ok x.2.entries ∧ x.2.symbols = x.1.symbols :=
    fun x hx => ⟨List.mem_append_left _ (h.kept x hx).1, (h.kept x hx).2⟩
  rcases p.loadShared_cases linker c with ⟨x, hx, hs, hl⟩ | ⟨-, ⟨e, he, hl⟩ | ⟨entries, he, hl⟩⟩
  · rw [hl]
    exact ⟨hkept, hfound (List.Subset.refl _) fun _ _ => ⟨x, hx, hs⟩⟩
  · rw [hl]
    refine ⟨hkept, hfound (List.Subset.refl _) fun entries he' => ?_⟩
    cases he.symm.trans he'
  · rw [hl]
    refine ⟨?_, hfound (List.subset_append_left _ _) ?_⟩
    · intro x hx
      rcases List.mem_append.mp hx with hx | hx
      · exact hkept x hx
      · obtain rfl := List.mem_singleton.mp hx
        exact ⟨List.mem_append_right _ List.mem_cons_self, he, rfl⟩
    · intro entries' _
      exact ⟨_, List.mem_append_right _ List.mem_cons_self, c.same_refl⟩

theorem Keeps.calls (h : Keeps linker past p) (cs : List Config) :
    Keeps linker (past ++ cs) (p.shareAll linker cs) := by
  induction cs generalizing past p with
  | nil => simpa [shareAll] using h
  | cons c cs ih =>
    have := ih (h.call c)
    rwa [List.append_assoc] at this

theorem keeps_shareAll (linker : Linker) (cs : List Config) :
    Keeps linker cs (fresh.shareAll linker cs) := by
  have h : Keeps linker [] fresh := ⟨by simp [fresh], by simp⟩
  exact h.calls cs

end Process

/-- Images alike find the same under a name. -/
theorem Image.find_same {x y : Image} (h : x.resolve = y.resolve) {name : String} {f g : EntryPoint}
    (hx : x.find name = .ok f) (hy : y.find name = .ok g) : f = g := by
  unfold find at hx hy
  cases hn : cString? (Utf8.ofString name) with
  | error e => simp [hn] at hx
  | ok n =>
    simp only [hn, h] at hx hy
    cases hr : y.resolve n with
    | none => simp [hr] at hx
    | some k =>
      simp only [hr, Except.ok.injEq] at hx hy
      exact hx.symm.trans hy

/-- Equal configurations that both load have the same entry points. -/
theorem Loader.loadConfig_same {linker : Linker} {files : Files} (hf : linker.Follows files)
    {c d : Config} (hs : c.same d = true) {f g : EntryPoints}
    (hc : (loadConfig linker c).1 = .ok f) (hd : (loadConfig linker d).1 = .ok g) : f = g := by
  obtain ⟨hsym, hcomp⟩ := Config.same_iff.mp hs
  obtain ⟨x, hx, hxi, hxf⟩ := load_ok (loadConfig_ok hc)
  obtain ⟨y, hy, hyi, hyf⟩ := load_ok (loadConfig_ok hd)
  have hxy := hf.opens_same hcomp hx hy
  rw [hsym] at hxi hxf
  calc f = ⟨f.init, f.finalize⟩ := rfl
    _ = ⟨g.init, g.finalize⟩ := by rw [Image.find_same hxy hxi hyi, Image.find_same hxy hxf hyf]
    _ = g := rfl

/-- In files that do not change, a call comes to what a load by itself comes to, here or in any
    other process: the same entry points under the names asked for, or the same error. The
    exception is a configuration that does not load and is equal to one that does and was called
    for before: it is given that one's entry points. -/
theorem shared_as_if_alone {linker : Linker} {files : Files} (hf : linker.Follows files)
    (past : List Config) (c : Config) (alone : Process) :
    let p := Process.fresh.shareAll linker past
    (∀ d ∈ past ++ [c], d.same c = true → ∀ l, (alone.loadConfig linker d).1 = .ok l →
      ∃ l', (p.loadShared linker c).1 = .ok l' ∧ l'.entries = l.entries ∧ l'.symbols = c.symbols) ∧
    ((∀ d ∈ past ++ [c], d.same c = true → ∃ e, (alone.loadConfig linker d).1 = .error e) →
      (p.loadShared linker c).1 = (alone.loadConfig linker c).1) := by
  intro p
  have hp : p.Keeps linker past := Process.keeps_shareAll linker past
  refine ⟨?_, ?_⟩
  · intro d hd hs l hl
    have hdl : (Loader.loadConfig linker d).1 = .ok l.entries := (Process.enrol_ok hl).1
    rcases p.loadShared_cases linker c with ⟨x, hx, hxs, hc⟩ | ⟨hno, ⟨e, he, hc⟩ | ⟨entries, he, hc⟩⟩
    · obtain ⟨-, hxl, hsym⟩ := hp.kept x hx
      have hsame := Config.same_trans hxs (Config.same_symm hs)
      exact ⟨x.2, by rw [hc], Loader.loadConfig_same hf hsame hxl hdl,
        hsym.trans (Config.same_iff.mp hxs).1⟩
    · -- The load failed, so it is an earlier call that loads; its library has been kept.
      exfalso
      rcases List.mem_append.mp hd with hd | hd
      · obtain ⟨x, hx, hxs⟩ := hp.found d hd _ hdl
        have := hno x hx
        rw [Config.same_trans hxs hs] at this
        cases this
      · obtain rfl := List.mem_singleton.mp hd
        cases he.symm.trans hdl
    · exact ⟨_, by rw [hc], (Loader.loadConfig_same hf hs hdl he).symm, rfl⟩
  · intro hnone
    have hno : ∀ d ∈ past ++ [c], d.same c = true → ∀ entries,
        (Loader.loadConfig linker d).1 ≠ .ok entries := by
      intro d hd hs entries he
      obtain ⟨e, hl⟩ := hnone d hd hs
      rw [Process.loadConfig_ok he] at hl
      cases hl
    rcases p.loadShared_cases linker c with ⟨x, hx, hxs, -⟩ | ⟨-, ⟨e, he, hc⟩ | ⟨entries, he, -⟩⟩
    · obtain ⟨hmem, hxl, -⟩ := hp.kept x hx
      exact absurd hxl (hno x.1 (List.mem_append_left _ hmem) hxs _)
    · rw [hc, Process.loadConfig_error he]
    · exact absurd he (hno c (List.mem_append_right _ List.mem_cons_self) c.same_refl _)

/-- A library asked for under two spellings of its path, one after the other. -/
theorem spelled_as_if_alone :
    let files : Files := ⟨.directory [([0x61], .image "a")], []⟩
    let linker := Linker.ofFiles files
    let p := Process.fresh.shareAll linker [.withLibrary [0x2F, 0x61]]
    linker.Follows files ∧ ∃ l', (p.loadShared linker (.withLibrary [0x2F, 0x2F, 0x61])).1 = .ok l' ∧
      l'.entries = ⟨.init, .finalize⟩ ∧ l'.symbols = .default := by
  intro files linker p
  have hf : linker.Follows files := Linker.ofFiles_follows files
  exact ⟨hf, (shared_as_if_alone hf [.withLibrary [0x2F, 0x61]] _ .fresh).1
    (.withLibrary [0x2F, 0x61]) (by decide) (by decide +kernel)
    ⟨0, "/a", .default, ⟨.init, .finalize⟩⟩ (by decide +kernel)⟩

/-- A slash after the name of a file: not a directory, but a spelling of the file's path. -/
theorem shared_though_refused :
    let linker := Linker.ofFiles ⟨.directory [([0x61], .image "a")], []⟩
    let c := Config.withLibrary [0x2F, 0x61, 0x2F]
    (Process.fresh.loadConfig linker c).1 = .error (.loadFailed "/a/" (.path "/a/" .notDirectory)) ∧
    ((Process.fresh.shareAll linker [.withLibrary [0x2F, 0x61]]).loadShared linker c).1 =
      .ok ⟨0, "/a", .default, ⟨.init, .finalize⟩⟩ := by
  decide +kernel

end ScopedEngine
