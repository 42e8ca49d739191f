/-
  ScopedEngine.Proofs.Loading — a load fails at its first failing stage and changes nothing.

  A load looks at the configuration, opens the image and looks up the two names (`Stage.all`).
  Each stage is said to fail by itself, whether or not one before it does, so that in a
  configuration with several faults the order decides (`loadConfig_attempt`). A name that passes
  holds no NUL, and is looked up with exactly its bytes (`Image.find_iff`).

  Main result:
  - `loads_in_stages`: the first stage that fails gives the error, look-ups are logged as they are
    tried, and no outcome changes anything but the log, the number of loads and the libraries kept.
    The entry points of a library are those exported under its two names, and sessions on it call
    these.
-/

import ScopedEngine.Proofs.Building
import ScopedEngine.Proofs.Points

namespace ScopedEngine

/-- The name of an entry point. -/
def Symbols.of (s : Symbols) : Role → String
  | .init => s.init
  | .finalize => s.finalize

/-! ## Names as they are looked up -/

/-- Bytes without a NUL are looked up as they are. -/
theorem cString?_eq_ok {b : Bytes} (h : (0 : UInt8) ∉ b) : cString? b = .ok b := by
  have hlast : b.getLast? ≠ some 0 := fun hl => h (List.mem_of_getLast? hl)
  have hinside : b.contains 0 = false := by simpa using h
  rw [cString?, if_neg hlast, hinside]
  rfl

theorem Image.find_iff {image : Image} {name : String} {f : EntryPoint}
    (hn : Config.Nameable name) :
    image.find name = .ok f ↔ image.resolve (Utf8.ofString name) = some f := by
  have hb : (0 : UInt8) ∉ Utf8.ofString name := fun h => hn.2 (Utf8.nul_mem_of_zero_mem_encode h)
  rw [find, cString?_eq_ok hb]
  cases hr : image.resolve (Utf8.ofString name) with
  | none => simp [hr]
  | some g => simp [hr]

/-! ## Stages -/

namespace Loader

/-- What a load does, one after the other. -/
inductive Stage where
  /-- The library path is not empty. -/
  | library
  | named (role : Role)
  | nulFree (role : Role)
  | opened
  | resolved (role : Role)
  deriving DecidableEq, Repr

namespace Stage

def all : List Stage :=
  [.library, .named .init, .nulFree .init, .named .finalize, .nulFree .finalize, .opened,
   .resolved .init, .resolved .finalize]

/-- The error with which a stage fails. Without an image there is nothing to look up. -/
def error? (linker : Linker) (c : Config) : Stage → Option EngineError
  | .library => if c.library = [] then some (.config .emptyLibrary) else none
  | .named role => if c.symbols.of role = "" then some (.config (.emptySymbol role)) else none
  | .nulFree role =>
    if '\x00' ∈ (c.symbols.of role).toList then some (.config (.nulInSymbol role)) else none
  | .opened =>
    match linker.openPath c.library with
    | .error cause => some (.loadFailed (Utf8.lossyString c.library) cause)
    | .ok _ => none
  | .resolved role =>
    match linker.openPath c.library with
    | .error _ => none
    | .ok image =>
      match image.find (c.symbols.of role) with
      | .error cause => some (.symbolNotFound (c.symbols.of role) cause)
      | .ok _ => none

/-- What a stage logs when it starts. -/
def records (c : Config) : Stage → List Record
  | .resolved role => [resolving (c.symbols.of role)]
  | _ => []

end Stage

/-- Goes through stages up to the first that fails: its error, and what has been logged. -/
def attempt (linker : Linker) (c : Config) : List Stage → Option EngineError × List Record
  | [] => (none, [])
  | stage :: rest =>
    match stage.error? linker c with
    | some e => (some e, stage.records c)
    | none =>
      let (e, rs) := attempt linker c rest
      (e, stage.records c ++ rs)

variable {linker : Linker} {c : Config} {past rest : List Stage} {stage : Stage} {e : EngineError}

theorem attempt_cons_error (h : stage.error? linker c = some e) :
    attempt linker c (stage :: rest) = (some e, stage.records c) := by
  simp only [attempt, h]

theorem attempt_cons_none (h : stage.error? linker c = none) :
    attempt linker c (stage :: rest) =
      ((attempt linker c rest).1, stage.records c ++ (attempt linker c rest).2) := by
  simp only [attempt, h]

/-- Stages that pass come before whatever follows. -/
theorem attempt_append (hp : ∀ x ∈ past, x.error? linker c = none) :
    attempt linker c (past ++ rest) = ((attempt linker c rest).1,
      past.flatMap (Stage.records c) ++ (attempt linker c rest).2) := by
  induction past with
  | nil => rfl
  | cons x past ih =>
    rw [List.forall_mem_cons] at hp
    rw [List.cons_append, attempt_cons_none hp.1, ih hp.2, List.flatMap_cons, List.append_assoc]

theorem attempt_fails (hp : ∀ x ∈ past, x.error? linker c = none)
    (h : stage.error? linker c = some e) :
    attempt linker c (past ++ stage :: rest) =
      (some e, (past ++ [stage]).flatMap (Stage.records c)) := by
  rw [attempt_append hp, attempt_cons_error h, List.flatMap_append, List.flatMap_singleton]

theorem attempt_passes (hp : ∀ x ∈ past, x.error? linker c = none) :
    attempt linker c past = (none, past.flatMap (Stage.records c)) := by
  have h : attempt linker c (past ++ []) = _ := attempt_append hp
  rwa [List.append_nil, attempt, List.append_nil] at h

/-- A load is its stages and, when all have passed, a record of that. -/
theorem loadConfig_attempt (linker : Linker) (c : Config) :
    match attempt linker c Stage.all with
    | (some e, rs) => loadConfig linker c = (.error e, rs)
    | (none, rs) => ∃ entries, loadConfig linker c =
        (.ok entries, rs ++ [loaded (Utf8.lossyString c.library) c.symbols]) := by
  unfold loadConfig Config.validate Config.fault? Config.symbolFault?
  simp only [Stage.all, attempt, Stage.error?, Stage.records, Symbols.of, load]
  -- Each stage is looked at where all before it have passed; a later fault does not show.
  by_cases hl : c.library = []
  · simp [hl]
  by_cases hi : c.symbols.init = ""
  · simp [hl, hi]
  by_cases hin : '\x00' ∈ c.symbols.init.toList
  · simp [hl, hi, hin]
  by_cases hf : c.symbols.finalize = ""
  · simp [hl, hi, hin, hf]
  by_cases hfn : '\x00' ∈ c.symbols.finalize.toList
  · simp [hl, hi, hin, hf, hfn]
  cases ho : linker.openPath c.library with
  | error cause => simp [hl, hi, hin, hf, hfn]
  | ok image =>
    cases hri : image.find c.symbols.init with
    | error cause => simp [hl, hi, hin, hf, hfn, hri]
    | ok f =>
      cases hrf : image.find c.symbols.finalize with
      | error cause => simp [hl, hi, hin, hf, hfn, hri, hrf]
      | ok g => simp [hl, hi, hin, hf, hfn, hri, hrf]

/-- Entry points that a load has found are exported under exactly its two names. -/
theorem loadConfig_exports {entries : EntryPoints} (h : (loadConfig linker c).1 = .ok entries) :
    ∃ image, linker.openPath c.library = .ok image ∧
      image.resolve (Utf8.ofString c.symbols.init) = some entries.init ∧
      image.resolve (Utf8.ofString c.symbols.finalize) = some entries.finalize := by
  have hsound : c.Sound := Config.validate_eq_ok.mp (Process.loadConfig_valid h)
  obtain ⟨image, ho, hi, hf⟩ := load_ok (loadConfig_ok h)
  exact ⟨image, ho, (Image.find_iff hsound.init).mp hi, (Image.find_iff hsound.finalize).mp hf⟩

end Loader

/-! ## Loads and processes -/

open Loader

namespace Process

variable {p : Process} {linker : Linker} {c : Config} {past rest : List Stage} {stage : Stage}
  {e : EngineError}

/-- Where no library is kept for an equal configuration, one is loaded as by itself. -/
theorem loadShared_uncached (h : ∀ x ∈ p.shared, x.1.same c = false) (linker : Linker) :
    p.loadShared linker c =
      match p.loadConfig linker c with
      | (.error e, q) => (.error e, q)
      | (.ok l, q) => (.ok l, { q with shared := q.shared ++ [(c, l)] }) := by
  have hf : p.findShared c = none := findShared_eq_none.mpr h
  rcases hl : p.loadConfig linker c with ⟨e | l, q⟩
  · simp only [loadShared, hf, hl]
  · simp only [loadShared, hf, hl]

theorem loadConfig_fails (hall : Stage.all = past ++ stage :: rest)
    (hp : ∀ x ∈ past, x.error? linker c = none) (h : stage.error? linker c = some e) :
    p.loadConfig linker c =
      (.error e, p.say ((past ++ [stage]).flatMap (Stage.records c))) := by
  have ha := loadConfig_attempt linker c
  rw [hall, attempt_fails hp h] at ha
  have hl : Loader.loadConfig linker c = _ := ha
  rw [loadConfig_error (congrArg Prod.fst hl), hl]

/-- The process when all stages have passed. -/
def afterStages (p : Process) (c : Config) : Process :=
  { p with
    log := p.log ++ (Stage.all.flatMap (Stage.records c) ++
      [Loader.loaded (Utf8.lossyString c.library) c.symbols])
    loads := p.loads + 1 }

theorem loadConfig_passes (hp : ∀ x ∈ Stage.all, x.error? linker c = none) :
    ∃ entries, (Loader.loadConfig linker c).1 = .ok entries ∧
      p.loadConfig linker c = (.ok (p.newLibrary c entries), p.afterStages c) := by
  have ha := loadConfig_attempt linker c
  rw [attempt_passes hp] at ha
  obtain ⟨entries, hl⟩ := ha
  have hok : (Loader.loadConfig linker c).1 = .ok entries := congrArg Prod.fst hl
  refine ⟨entries, hok, ?_⟩
  rw [loadConfig_ok hok, afterLoad, hl]
  rfl

end Process

/-- What a session on a library calls is what the library holds, when it is opened and when it is
    let go of. -/
def Library.Serves (l : Library) : Prop :=
  (∀ args p x q, Session.start (.library l) args p = (.returned x, q) →
    q.recorder = p.recorder.callInit l.entries.init (.ofList args)) ∧
  ∀ (x : Session) p, x.engine = .library l → x.state = .active →
    (x.drop p).2.recorder = p.recorder.callFinalize l.entries.finalize

theorem Library.serves (l : Library) : l.Serves := by
  constructor
  · intro args p x q hs
    obtain ⟨-, probes, rfl⟩ := Session.start_returned hs
    rfl
  · intro x p he hs
    obtain ⟨o, probes, hd⟩ := Session.drop_active hs p
    rw [hd, he]
    rfl

namespace Script

/-- What a load leaves alone in a script: the sessions, the engines under other names, under its
    own name as well if it fails, and of the process all but the log and the libraries. -/
structure Undisturbed {ρ : Type} (name : String) (s : State) (x : Result ρ × State) : Prop where
  sessions : x.2.sessions = s.sessions
  others : ∀ other, other ≠ name → x.2.engine? other = s.engine? other
  failed : ∀ e, x.1 = .error e → x.2.engines = s.engines
  process : ∃ log n shared,
    x.2.process = { s.process with log := log, loads := n, shared := shared }

theorem loadResult_undisturbed {ρ : Type} {linker : Linker} (name : String) {s : State}
    {r : Except EngineError Library × Process} (h : s.process.Loads linker r) :
    Undisturbed name s (loadResult name s r : Result ρ × State) := by
  have hchanges := h.changes
  obtain ⟨r, p⟩ := r
  cases r with
  | error e => exact ⟨rfl, fun _ _ => rfl, fun _ _ => rfl, hchanges⟩
  | ok l =>
    refine ⟨rfl, fun _ hother => lookup_bind _ hother, ?_, hchanges⟩
    intro e he
    cases he

theorem load_undisturbed {ρ : Type} (kind : LoadKind) (linker : Linker) (name : String)
    (c : Config) (s : State) :
    Undisturbed name s (Script.load linker kind name c s : Result ρ × State) := by
  cases kind with
  | plain => exact loadResult_undisturbed name (.plain c.library c.symbols)
  | validated => exact loadResult_undisturbed name (.validated c)
  | shared => exact loadResult_undisturbed name (.shared c)

end Script

namespace Process

/-- A load goes through its stages. The first that fails gives the error, and what has been logged
    are the look-ups tried so far. When none fails there is a new library with the two functions
    exported under exactly the bytes of its names, which its sessions call, and success has been
    logged as well. Nothing else of the process is changed, nor any session or other engine of a
    script. A shared load for which no equal configuration has a library comes to the same, and
    keeps the library. -/
theorem loads_in_stages (p : Process) (linker : Linker) (c : Config) :
    (∀ past stage rest e, Stage.all = past ++ stage :: rest →
      (∀ x ∈ past, x.error? linker c = none) → stage.error? linker c = some e →
      let q := p.say ((past ++ [stage]).flatMap (Stage.records c))
      p.loadConfig linker c = (.error e, q) ∧
        ((∀ x ∈ p.shared, x.1.same c = false) → p.loadShared linker c = (.error e, q))) ∧
    ((∀ stage ∈ Stage.all, stage.error? linker c = none) → ∃ l : Library,
      let q := p.afterStages c
      p.loadConfig linker c = (.ok l, q) ∧
      ((∀ x ∈ p.shared, x.1.same c = false) →
        p.loadShared linker c = (.ok l, { q with shared := p.shared ++ [(c, l)] })) ∧
      (l.id = p.loads ∧ l.path = Utf8.lossyString c.library ∧ l.symbols = c.symbols) ∧
      (∃ image, linker.openPath c.library = .ok image ∧
        image.resolve (Utf8.ofString c.symbols.init) = some l.entries.init ∧
        image.resolve (Utf8.ofString c.symbols.finalize) = some l.entries.finalize) ∧
      l.Serves) ∧
    ∀ (ρ : Type) (kind : Script.LoadKind) name (s : Script.State), Script.Undisturbed name s
      (Script.load linker kind name c s : Script.Result ρ × Script.State) := by
  refine ⟨fun past stage rest e hall hp h => ?_, fun hp => ?_,
    fun ρ kind name s => Script.load_undisturbed kind linker name c s⟩
  · have hload := loadConfig_fails (p := p) hall hp h
    refine ⟨hload, fun hnone => ?_⟩
    rw [loadShared_uncached hnone, hload]
  · obtain ⟨entries, hok, hload⟩ := loadConfig_passes (p := p) hp
    refine ⟨p.newLibrary c entries, hload, fun hnone => ?_, ⟨rfl, rfl, rfl⟩,
      loadConfig_exports hok, Library.serves _⟩
    rw [loadShared_uncached hnone, hload]
    rfl

/-- Only the finalizer is missing. -/
def unfinished : Config := ⟨[0x2f, 0x6d], ⟨"ket_begin", "ket_finish"⟩⟩

theorem unfinished_loads_in_stages :
    let linker := Linker.ofFiles ⟨.directory [([0x6d], .image "m")], []⟩
    let e := EngineError.symbolNotFound "ket_finish" (.undefined "m" "ket_finish")
    (∀ x ∈ Stage.all.take 7, x.error? linker unfinished = none) ∧
    Process.fresh.loadShared linker unfinished =
      (.error e, Process.fresh.say [resolving "ket_begin", resolving "ket_finish"]) :=
  ⟨by decide +kernel, ((loads_in_stages .fresh _ _).1 (Stage.all.take 7) (.resolved .finalize) []
    _ (by decide) (by decide +kernel) (by decide +kernel)).2 (by decide)⟩

end Process

end ScopedEngine
