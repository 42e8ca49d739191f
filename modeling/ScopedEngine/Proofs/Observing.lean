/-
  ScopedEngine.Proofs.Observing — logging observes and never interferes.

  Nothing that a process does reads its log: whatever has been logged before, the same comes of it
  and the same is logged (`Process.Unread`). The variables that choose the filter are read for that
  and for nothing else. So a run goes step by step as one beside it, with other such variables and
  another log to go on from (`exec_beside`, `run_beside`), and may as well write its records and
  forget them after every step (`runWriting_beside`).

  Main result, for every script of a host process and all settings of the two variables:
  - `logging_only_observes`: reports and process are the same; each run writes the records that its
    chosen filter lets through, in order, and of two filters the one that lets more through writes
    all that the other does.
-/

import ScopedEngine.Host.Logging
import ScopedEngine.Proofs.Encoding
import ScopedEngine.Proofs.Lives
import ScopedEngine.Proofs.Precedence

namespace ScopedEngine

/-! ## The log is not read -/

namespace Process

/-- The same process, with `past` logged before. -/
def following (p : Process) (past : List Record) : Process := { p with log := past ++ p.log }

/-- Whatever has been logged before, the same comes of it and the same is logged. -/
def Unread {α : Type} (f : Process → α × Process) : Prop :=
  ∀ past p, f (p.following past) = ((f p).1, (f p).2.following past)

theorem say_following (p : Process) (past rs : List Record) :
    (p.following past).say rs = (p.say rs).following past := by
  simp [say, following]

theorem runInit_unread (e : Engine) (v : Argv) : Unread (runInit · e v) := by
  intro past p
  cases e with
  | library l => rfl
  | probe id name =>
    have hprobe : (p.following past).probe? id = p.probe? id := rfl
    simp only [runInit, hprobe]
    cases p.probe? id with
    | none => rfl
    | some probe =>
      dsimp only
      cases probe.initPanic.next with
      | none => rfl
      | some m => rfl

theorem runFinalize_unread (e : Engine) : Unread (runFinalize · e) := by
  intro past p
  cases e with
  | library l => rfl
  | probe id name =>
    have hprobe : (p.following past).probe? id = p.probe? id := rfl
    simp only [runFinalize, hprobe]
    cases p.probe? id with
    | none => rfl
    | some probe =>
      dsimp only
      cases probe.finalizePanic.next with
      | none => rfl
      | some m => rfl

theorem callInit_unread (e : Engine) (v : Argv) : Unread (callInit · e v) := by
  intro past p
  simp only [callInit, runInit_unread e v past p]
  rfl

theorem callFinalize_unread (place : Nat) (e : Engine) : Unread (callFinalize · place e) := by
  intro past p
  simp only [callFinalize, runFinalize_unread e past p]
  rfl

theorem enrol_unread (path : Bytes) (s : Symbols)
    (r : Except EngineError EntryPoints × List Record) : Unread (enrol · path s r) := by
  intro past p
  simp only [enrol, say_following]
  cases r.1 with
  | error e => rfl
  | ok entries => rfl

theorem loadShared_unread (linker : Linker) (c : Config) : Unread (loadShared · linker c) := by
  intro past p
  have hfind : (p.following past).findShared c = p.findShared c := rfl
  have hload : (p.following past).loadConfig linker c =
      ((p.loadConfig linker c).1, (p.loadConfig linker c).2.following past) :=
    enrol_unread _ _ _ past p
  simp only [loadShared, hfind, hload]
  cases p.findShared c with
  | some l => rfl
  | none =>
    rcases p.loadConfig linker c with ⟨e | l, q⟩
    · rfl
    · rfl

end Process

open Process

namespace Session

theorem start_unread (e : Engine) (args : List Bytes) : Unread (start e args) := by
  intro past p
  by_cases hn : args.length ≤ Argv.maxArgc
  · have hm : Argv.marshal args = .ok (.ofList args) := if_pos hn
    have hactive : (p.following past).active = p.active := rfl
    have hsay : (if 0 < p.active then (p.following past).say [overlapping e.name p.active]
        else p.following past).say [opening e.name (.ofList args)] =
        ((if 0 < p.active then p.say [overlapping e.name p.active] else p).say
          [opening e.name (.ofList args)]).following past := by
      split
      · rw [say_following, say_following]
      · rw [say_following]
    simp only [start, hm, hactive, hsay]
    generalize (if 0 < p.active then p.say [overlapping e.name p.active] else p).say
      [opening e.name (.ofList args)] = q
    have hcall : (q.following past).callInit e (.ofList args) =
        ((q.callInit e (.ofList args)).1, (q.callInit e (.ofList args)).2.following past) :=
      callInit_unread e _ past q
    rw [hcall]
    rcases q.callInit e (.ofList args) with ⟨x | m, r⟩
    · exact congrArg (Prod.mk _) (say_following r.count past [opened e.name])
    · rfl
  · rw [start_tooMany hn, start_tooMany hn]

theorem drop_unread (s : Session) : Unread s.drop := by
  intro past p
  cases hs : s.state with
  | finalized => rw [drop_finalized hs, drop_finalized hs]
  | active =>
    have huncount : (p.following past).uncount = p.uncount.following past := rfl
    have hcall : (p.uncount.following past).callFinalize s.place s.engine =
        ((p.uncount.callFinalize s.place s.engine).1,
          (p.uncount.callFinalize s.place s.engine).2.following past) :=
      callFinalize_unread s.place s.engine past p.uncount
    simp only [drop, finish, hs, huncount, hcall]
    rcases p.uncount.callFinalize s.place s.engine with ⟨x | m, q⟩
    · exact congrArg (Prod.mk _) (say_following q past [closed s.engine.name])
    · rfl

theorem close_unread (s : Session) : Unread s.close := by
  intro past p
  rw [close_eq_drop, close_eq_drop]
  exact s.drop_unread past p

end Session

namespace Host

open Log

/-! ## The variables that choose the filter -/

section Variables

variable {env env' : Config.Environment} {name : String}

theorem lookup_setVariable_same (env : Config.Environment) (change : String × Option Bytes) :
    List.lookup change.1 (State.setVariable env change) = change.2 := by
  unfold State.setVariable
  cases hv : change.2 with
  | some v => exact List.lookup_cons_self
  | none =>
    refine List.lookup_eq_none_iff.mpr fun x hx => ?_
    have hne : x.1 ≠ change.1 := by simpa using (List.mem_filter.mp hx).2
    simpa using Ne.symm hne

theorem lookup_setVariable_other {change : String × Option Bytes} (h : name ≠ change.1) :
    List.lookup name (State.setVariable env change) = List.lookup name env := by
  unfold State.setVariable
  cases change.2 with
  | some v => exact Script.lookup_bind v h
  | none => exact Script.lookup_filter h

/-- The same variables, aside from the two that choose the filter. -/
def AlikeAside (env env' : Config.Environment) : Prop :=
  ∀ name, name ≠ Filter.primaryVariable → name ≠ Filter.secondaryVariable →
    List.lookup name env = List.lookup name env'

/-- A process whose two variables are set to these bytes, or are not set. -/
def withLogging (env : Config.Environment) (ket rust : Option Bytes) : Config.Environment :=
  State.setVariable (State.setVariable env (Filter.primaryVariable, ket))
    (Filter.secondaryVariable, rust)

namespace AlikeAside

theorem withLogging (env : Config.Environment) (ket rust : Option Bytes) :
    AlikeAside env (withLogging env ket rust) := by
  intro name hket hrust
  rw [Host.withLogging, lookup_setVariable_other hrust, lookup_setVariable_other hket]

theorem symm (h : AlikeAside env env') : AlikeAside env' env :=
  fun name hket hrust => (h name hket hrust).symm

theorem trans {env'' : Config.Environment} (h : AlikeAside env env') (h' : AlikeAside env' env'') :
    AlikeAside env env'' :=
  fun name hket hrust => (h name hket hrust).trans (h' name hket hrust)

/-- A variable that is set in both is the same in both, also if it is one of the two. -/
theorem set (h : AlikeAside env env') (change : String × Option Bytes) :
    AlikeAside (State.setVariable env change) (State.setVariable env' change) := by
  intro name hket hrust
  by_cases hn : name = change.1
  · rw [hn, lookup_setVariable_same, lookup_setVariable_same]
  · rw [lookup_setVariable_other hn, lookup_setVariable_other hn]
    exact h name hket hrust

theorem setAll (h : AlikeAside env env') (changes : List (String × Option Bytes)) :
    AlikeAside (changes.foldl State.setVariable env) (changes.foldl State.setVariable env') := by
  induction changes generalizing env env' with
  | nil => exact h
  | cons change changes ih => exact ih (h.set change)

/-- No session is configured by them. -/
theorem config (h : AlikeAside env env') (library : Option Bytes) :
    sessionConfig library env.lookup = sessionConfig library env'.lookup := by
  have hagree : ∀ name, name ≠ Filter.primaryVariable → name ≠ Filter.secondaryVariable →
      Config.Agree env.lookup env'.lookup name := by
    intro name hket hrust
    unfold Config.Agree Config.Environment.lookup
    rw [h name hket hrust]
  refine Config.sessionConfig_congr (fun c => ?_) library
  refine Config.withOverrides_congr c (Config.library?_congr ?_ fun _ => ?_) ?_ ?_
  all_goals exact hagree _ (by decide) (by decide)

end AlikeAside

end Variables

/-! ## Objects -/

theorem Handle.close_unread (h : Handle) : Unread h.close := by
  intro past p
  unfold close
  cases h.inner with
  | none => rfl
  | some x =>
    simp only [x.close_unread past p]

theorem openOn_unread (linker : Linker) (c : Config) (args : List Bytes) :
    Unread (openOn linker c args) := by
  intro past p
  have hload : (p.following past).loadShared linker c =
      ((p.loadShared linker c).1, (p.loadShared linker c).2.following past) :=
    loadShared_unread linker c past p
  simp only [openOn, hload]
  rcases p.loadShared linker c with ⟨e | l, q⟩
  · rfl
  · simp only [Session.start_unread (.library l) args past q]
    rcases Session.start (.library l) args q with ⟨x | m, r⟩
    · rfl
    · rfl

theorem construct_unread (linker : Linker) (look : Config.Lookup) (argv library : Option Value) :
    Unread (construct linker look argv library) := by
  intro past p
  unfold construct
  cases argv with
  | none => rfl
  | some argv =>
    dsimp only
    cases argv.arguments with
    | error f => rfl
    | ok args =>
      dsimp only
      cases (library.getD .none).library with
      | error f => rfl
      | ok path => exact openOn_unread linker _ args past p

theorem construct_congr {look look' : Config.Lookup}
    (h : ∀ library, sessionConfig library look = sessionConfig library look') (linker : Linker)
    (argv library : Option Value) :
    construct linker look argv library = construct linker look' argv library := by
  funext p
  simp only [construct, h]

/-! ## Runs beside each other -/

/-- The same state in a process with other variables, with `past` logged before. -/
def State.beside (s : State) (past : List Record) (env : Config.Environment) : State :=
  { s with process := s.process.following past, environment := env }

/-- The same objects under the same names, aside from the log before and from the variables that
    choose the filter. -/
def Beside (past : List Record) (s t : State) : Prop :=
  ∃ env, AlikeAside s.environment env ∧ t = s.beside past env

section Objects

variable {s : State} {past : List Record} {env : Config.Environment}

theorem closeId_beside (id : Nat) :
    (s.beside past env).closeId id = (s.closeId id).beside past env := by
  have hclose : (s.handle id).close (s.process.following past) =
      (((s.handle id).close s.process).1, ((s.handle id).close s.process).2.following past) :=
    (s.handle id).close_unread past s.process
  show ({ s.beside past env with
    process := ((s.handle id).close (s.process.following past)).2
    handles := s.handles.set id ((s.handle id).close (s.process.following past)).1 } : State) = _
  rw [hclose]
  rfl

theorem letGo_beside (id : Nat) :
    (s.beside past env).letGo id = (s.letGo id).beside past env := by
  have hcond : (s.beside past env).held = s.held ∧ (s.beside past env).names = s.names := ⟨rfl, rfl⟩
  unfold State.letGo
  rw [hcond.1, hcond.2]
  split
  · rfl
  · exact closeId_beside id

theorem letGoOf_beside (old : Option Nat) :
    (s.beside past env).letGoOf old = (s.letGoOf old).beside past env := by
  cases old with
  | none => rfl
  | some id => exact letGo_beside id

theorem make_eq (linker : Linker) (name : String) (argv library : Option Value) (s : State) :
    make linker name argv library s =
      match construct linker s.environment.lookup argv library s.process with
      | (.error e, p) => (.raised e, { s with process := p })
      | (.ok h, p) => (.description (describe h), (s.bind name h p).letGoOf (s.id? name)) := by
  unfold make
  rcases construct linker s.environment.lookup argv library s.process with ⟨e | h, p⟩
  · rfl
  · rfl

theorem make_beside (h : AlikeAside s.environment env) (linker : Linker) (name : String)
    (argv library : Option Value) :
    make linker name argv library (s.beside past env) =
      ((make linker name argv library s).1,
        (make linker name argv library s).2.beside past env) := by
  have hnew : construct linker (s.beside past env).environment.lookup argv library
      (s.beside past env).process =
      ((construct linker s.environment.lookup argv library s.process).1,
        (construct linker s.environment.lookup argv library s.process).2.following past) := by
    show construct linker env.lookup argv library (s.process.following past) = _
    rw [← construct_congr h.config]
    exact construct_unread linker _ argv library past s.process
  rw [make_eq, make_eq, hnew]
  rcases construct linker s.environment.lookup argv library s.process with ⟨e | x, p⟩
  · rfl
  · exact congrArg (Prod.mk _) (letGoOf_beside (s := s.bind name x p) (s.id? name))

theorem environment_letGo (s : State) (id : Nat) : (s.letGo id).environment = s.environment := by
  unfold State.letGo
  split
  · rfl
  · rfl

theorem environment_make (linker : Linker) (name : String) (argv library : Option Value)
    (s : State) : (make linker name argv library s).2.environment = s.environment := by
  rw [make_eq]
  rcases construct linker s.environment.lookup argv library s.process with ⟨e | x, p⟩
  · rfl
  · cases s.id? name with
    | none => rfl
    | some old => exact environment_letGo _ old

end Objects

namespace Beside

variable {past : List Record} {s t : State}

theorem active (h : Beside past s t) : t.process.active = s.process.active := by
  obtain ⟨env, -, rfl⟩ := h
  rfl

theorem id? (h : Beside past s t) (name : String) : t.id? name = s.id? name := by
  obtain ⟨env, -, rfl⟩ := h
  rfl

theorem closeId (h : Beside past s t) (id : Nat) : Beside past (s.closeId id) (t.closeId id) := by
  obtain ⟨env, he, rfl⟩ := h
  exact ⟨env, he, closeId_beside id⟩

theorem letGo (h : Beside past s t) (id : Nat) : Beside past (s.letGo id) (t.letGo id) := by
  obtain ⟨env, he, rfl⟩ := h
  exact ⟨env, by rwa [environment_letGo], letGo_beside id⟩

theorem unname (h : Beside past s t) (name : String) :
    Beside past (s.unname name) (t.unname name) := by
  obtain ⟨env, he, rfl⟩ := h
  exact ⟨env, he, rfl⟩

theorem enter (h : Beside past s t) (id : Nat) : Beside past (s.enter id) (t.enter id) := by
  obtain ⟨env, he, rfl⟩ := h
  exact ⟨env, he, rfl⟩

theorem leave (h : Beside past s t) (id : Nat) : Beside past (s.leave id) (t.leave id) := by
  obtain ⟨env, he, hc⟩ := h.closeId id
  have herase : Beside past { s.closeId id with held := (s.closeId id).held.erase id }
      { t.closeId id with held := (t.closeId id).held.erase id } := by
    rw [hc]
    exact ⟨env, he, rfl⟩
  exact herase.letGo id

end Beside

/-- The same comes of both, in states beside each other. -/
def Alongside {α : Type} (past : List Record) (x y : α × State) : Prop :=
  y.1 = x.1 ∧ Beside past x.2 y.2

namespace Alongside

variable {past : List Record} {s t : State}

theorem plainly {x y : Result × State} (h : Alongside past x y) :
    Alongside past (exec.plainly x) (exec.plainly y) := by
  refine ⟨?_, h.2⟩
  show Report.plain y.1 y.2.process.active = .plain x.1 x.2.process.active
  rw [h.1, h.2.active]

theorem named (h : Beside past s t) {name : String} {f : Nat → State → Result × State}
    (hf : ∀ id, Alongside past (f id s) (f id t)) :
    Alongside past (withNamed name f s) (withNamed name f t) := by
  unfold withNamed
  rw [h.id? name]
  cases s.id? name with
  | none => exact ⟨rfl, h⟩
  | some id => exact hf id

theorem make (h : Beside past s t) (linker : Linker) (name : String)
    (argv library : Option Value) :
    Alongside past (make linker name argv library s) (make linker name argv library t) := by
  obtain ⟨env, he, rfl⟩ := h
  rw [make_beside he]
  exact ⟨rfl, env, by rwa [environment_make], rfl⟩

end Alongside

mutual

/-- A step does the same in states beside each other, and leaves them so. -/
theorem exec_beside (linker : Linker) {past : List Record} : (step : Step) → {s t : State} →
    Beside past s t → Alongside past (exec linker step s) (exec linker step t)
  -- The only step that reads variables.
  | .make name argv library, s, t, h => by
    unfold exec
    exact (Alongside.make h linker name argv library).plainly
  | .state name, s, t, h => by
    unfold exec
    refine (Alongside.named h fun id => ⟨?_, h⟩).plainly
    obtain ⟨env, -, rfl⟩ := h
    rfl
  | .close name, s, t, h => by
    unfold exec
    exact (Alongside.named h fun id => ⟨rfl, h.closeId id⟩).plainly
  | .enter name, s, t, h => by
    unfold exec
    exact (Alongside.named h fun id => ⟨rfl, h⟩).plainly
  | .exit name n, s, t, h => by
    unfold exec
    refine (Alongside.named h fun id => ?_).plainly
    split
    · exact ⟨rfl, h⟩
    · exact ⟨rfl, h.closeId id⟩
  | .scope name body raises, s, t, h => by
    cases hx : s.id? name with
    | none =>
      have hx' : t.id? name = none := (h.id? name).trans hx
      simp only [exec, hx, hx', h.active]
      exact ⟨rfl, h⟩
    | some id =>
      have hx' : t.id? name = some id := (h.id? name).trans hx
      obtain ⟨hreports, hbody⟩ := run_beside linker body (h.enter id)
      have hleft := hbody.leave id
      rw [exec_scope hx, exec_scope hx']
      refine ⟨?_, hleft⟩
      rw [hreports, hleft.active]
  | .release name, s, t, h => by
    unfold exec
    exact (Alongside.named h fun id => ⟨rfl, (h.unname name).letGo id⟩).plainly
  | .assign name, s, t, h => by
    unfold exec
    exact (Alongside.named h fun id => ⟨rfl, h⟩).plainly
  | .setEnvironment changes, s, t, h => by
    unfold exec
    obtain ⟨env, he, rfl⟩ := h
    exact ⟨rfl, changes.foldl State.setVariable env, he.setAll changes, rfl⟩
  | .active, s, t, h => by
    obtain ⟨env, he, rfl⟩ := h
    exact ⟨rfl, env, he, rfl⟩
  | .about, s, t, h => by
    obtain ⟨env, he, rfl⟩ := h
    exact ⟨rfl, env, he, rfl⟩
  | .recorder, s, t, h => by
    obtain ⟨env, he, rfl⟩ := h
    exact ⟨rfl, env, he, rfl⟩
  | .unknown, s, t, h => by
    obtain ⟨env, he, rfl⟩ := h
    exact ⟨rfl, env, he, rfl⟩

theorem run_beside (linker : Linker) {past : List Record} : (steps : List Step) →
    {s t : State} → Beside past s t → Alongside past (run linker steps s) (run linker steps t)
  | [], s, t, h => ⟨rfl, h⟩
  | step :: steps, s, t, h => by
    obtain ⟨hreport, hstep⟩ := exec_beside linker step h
    obtain ⟨hreports, hrest⟩ := run_beside linker steps hstep
    unfold run
    exact ⟨congrArg₂ List.cons hreport hreports, hrest⟩

end

namespace Beside

variable {past past' : List Record} {s t u : State}

theorem trans (h : Beside past s t) (h' : Beside past' t u) : Beside (past' ++ past) s u := by
  obtain ⟨env, he, rfl⟩ := h
  obtain ⟨env', he', rfl⟩ := h'
  refine ⟨env', he.trans he', ?_⟩
  simp [State.beside, following]

theorem log (h : Beside past s t) : t.process.log = past ++ s.process.log := by
  obtain ⟨env, -, rfl⟩ := h
  rfl

theorem names (h : Beside past s t) : t.names = s.names := by
  obtain ⟨env, -, rfl⟩ := h
  rfl

theorem process (h : Beside [] s t) : t.process = s.process := by
  obtain ⟨env, -, rfl⟩ := h
  rfl

/-- Letting go of all objects is a script. -/
theorem releaseAll (h : Beside past s t) (linker : Linker) :
    Beside past (releaseAll s) (releaseAll t) := by
  unfold Host.releaseAll
  rw [foldl_release linker, foldl_release linker, h.names]
  exact (run_beside linker _ h).2

end Beside

/-! ## Writing as it goes -/

/-- Writes what has been logged, as far as it is let through, and keeps nothing of it. -/
def writeOut (lets : Record → Bool) (s : State) : List Record × State :=
  (s.process.log.filter lets, { s with process := { s.process with log := [] } })

/-- A run that writes after every step. -/
def runWriting (linker : Linker) (lets : Record → Bool) :
    List Step → State → (List Report × List Record) × State
  | [], s => (([], []), s)
  | step :: steps, s =>
    let (r, s) := exec linker step s
    let (w, s) := writeOut lets s
    let ((rs, ws), s) := runWriting linker lets steps s
    ((r :: rs, w ++ ws), s)

/-- A whole script that is written as it goes, to the release of the last object. -/
def runAllWriting (linker : Linker) (lets : Record → Bool) (env : Config.Environment)
    (steps : List Step) : List Report × List Record :=
  let ((rs, ws), s) := runWriting linker lets steps (.fresh env)
  (rs, ws ++ (writeOut lets (releaseAll s)).1)

section Writing

variable {linker : Linker} {lets : Record → Bool}

theorem writeOut_beside (s : State) : Beside s.process.log (writeOut lets s).2 s := by
  refine ⟨s.environment, fun _ _ _ => rfl, ?_⟩
  simp [writeOut, State.beside, following]

/-- What has been written is what the whole log holds of what is let through: the run goes on
    beside the one that keeps its log. -/
theorem runWriting_beside (steps : List Step) {s : State} (hs : s.process.log = []) :
    let w := runWriting linker lets steps s
    w.1.1 = (run linker steps s).1 ∧ w.2.process.log = [] ∧
      ∃ events, w.1.2 = events.filter lets ∧ Beside events w.2 (run linker steps s).2 := by
  induction steps generalizing s with
  | nil => exact ⟨rfl, hs, [], rfl, s.environment, fun _ _ _ => rfl, rfl⟩
  | cons step steps ih =>
    have hflush : Beside (exec linker step s).2.process.log
        (writeOut lets (exec linker step s).2).2 (exec linker step s).2 := writeOut_beside _
    -- The rest starts with an empty log, beside the run that has kept what the step logged.
    obtain ⟨hreports, hlog, events, hwritten, hrest⟩ :=
      @ih (writeOut lets (exec linker step s).2).2 rfl
    obtain ⟨hsame, hrun⟩ := run_beside linker steps hflush
    refine ⟨?_, hlog, (exec linker step s).2.process.log ++ events, ?_, hrest.trans hrun⟩
    · exact congrArg (List.cons (exec linker step s).1) (hreports.trans hsame.symm)
    · rw [List.filter_append, ← hwritten]
      rfl

theorem runAllWriting_eq (linker : Linker) (lets : Record → Bool) (env : Config.Environment)
    (steps : List Step) : runAllWriting linker lets env steps =
      ((runAll linker env steps).1, (runAll linker env steps).2.log.filter lets) := by
  obtain ⟨hreports, hlog, events, hwritten, hrest⟩ :=
    @runWriting_beside linker lets steps (.fresh env) rfl
  have hend := (hrest.releaseAll linker).log
  show ((runWriting linker lets steps (.fresh env)).1.1,
    (runWriting linker lets steps (.fresh env)).1.2 ++
      (releaseAll (runWriting linker lets steps (.fresh env)).2).process.log.filter lets) = _
  rw [hreports, hwritten, ← List.filter_append, ← hend]
  rfl

end Writing

/-! ## The chosen filter -/

/-- A variable is set to text that is a filter. -/
def Reads (v : Option Bytes) (f : Filter) : Prop :=
  ∃ cs, v = some (Utf8.encode cs) ∧ Filter.read? cs = some f

/-- The first of the two variables that holds a filter gives it; warnings and errors are let
    through when neither does. -/
inductive Chosen (ket rust : Option Bytes) : Filter → Prop
  | primary {f : Filter} : Reads ket f → Chosen ket rust f
  | secondary {f : Filter} : (∀ g, ¬ Reads ket g) → Reads rust f → Chosen ket rust f
  | neither : (∀ g, ¬ Reads ket g) → (∀ g, ¬ Reads rust g) →
      Chosen ket rust (Filter.upTo Level.warn.verbosity)

theorem Reads.unique {v : Option Bytes} {f g : Filter} (hf : Reads v f) (hg : Reads v g) :
    f = g := by
  obtain ⟨cs, hv, hf⟩ := hf
  obtain ⟨ds, hv', hg⟩ := hg
  have hdecode : Utf8.decode? (Utf8.encode cs) = some ds :=
    Utf8.decode?_eq_some.mpr (Option.some.inj (hv.symm.trans hv'))
  obtain rfl : cs = ds := Option.some.inj ((Utf8.decode?_eq_some.mpr rfl).symm.trans hdecode)
  exact Option.some.inj (hf.symm.trans hg)

theorem Chosen.unique {ket rust : Option Bytes} {f g : Filter} (hf : Chosen ket rust f)
    (hg : Chosen ket rust g) : f = g := by
  cases hf with
  | primary hf =>
    cases hg with
    | primary hg => exact hf.unique hg
    | secondary hno _ => exact absurd hf (hno f)
    | neither hno _ => exact absurd hf (hno f)
  | secondary hno hf =>
    cases hg with
    | primary hg => exact absurd hg (hno g)
    | secondary _ hg => exact hf.unique hg
    | neither _ hno' => exact absurd hf (hno' f)
  | neither hno hno' =>
    cases hg with
    | primary hg => exact absurd hg (hno g)
    | secondary _ hg => exact absurd hg (hno' g)
    | neither _ _ => rfl

theorem ofVariable_iff {env : Config.Environment} {name : String} {f : Filter} :
    Filter.ofVariable env.lookup name = some f ↔ Reads (List.lookup name env) f := by
  unfold Filter.ofVariable Config.Environment.lookup Reads
  constructor
  · intro h
    obtain ⟨v, hv, hf⟩ := Option.bind_eq_some_iff.mp h
    obtain ⟨b, hb, hv⟩ := Option.bind_eq_some_iff.mp hv
    obtain ⟨cs, hcs, rfl⟩ := Option.map_eq_some_iff.mp hv
    rw [Utf8.decode?_eq_some.mp hcs] at hb
    exact ⟨cs, hb, by simpa using hf⟩
  · rintro ⟨cs, hb, hf⟩
    have hcs : Utf8.decode? (Utf8.encode cs) = some cs := Utf8.decode?_eq_some.mpr rfl
    simp [hb, Utf8.toString?, hcs, hf]

/-- The filter of a process is the one that its two variables choose. -/
theorem chosen_ofLookup (env : Config.Environment) (ket rust : Option Bytes) :
    Chosen ket rust (Filter.ofLookup (withLogging env ket rust).lookup) := by
  have hne : Filter.primaryVariable ≠ Filter.secondaryVariable := by decide
  have hket : List.lookup Filter.primaryVariable (withLogging env ket rust) = ket := by
    rw [withLogging, lookup_setVariable_other hne]
    exact lookup_setVariable_same env (Filter.primaryVariable, ket)
  have hrust : List.lookup Filter.secondaryVariable (withLogging env ket rust) = rust :=
    lookup_setVariable_same _ (Filter.secondaryVariable, rust)
  have hprimary := @ofVariable_iff (withLogging env ket rust) Filter.primaryVariable
  have hsecondary := @ofVariable_iff (withLogging env ket rust) Filter.secondaryVariable
  rw [hket] at hprimary
  rw [hrust] at hsecondary
  unfold Filter.ofLookup
  cases hf : Filter.ofVariable (withLogging env ket rust).lookup Filter.primaryVariable with
  | some f => exact .primary (hprimary.mp hf)
  | none =>
    have hno : ∀ g, ¬ Reads ket g := by
      intro g hg
      rw [hprimary.mpr hg] at hf
      cases hf
    cases hg : Filter.ofVariable (withLogging env ket rust).lookup Filter.secondaryVariable with
    | some g => exact .secondary hno (hsecondary.mp hg)
    | none =>
      refine .neither hno fun g hg' => ?_
      rw [hsecondary.mpr hg'] at hg
      cases hg

/-- A filter goes by level and target. -/
theorem lets_congr (f : Filter) {r r' : Record} (hl : r.level = r'.level)
    (ht : r.target = r'.target) : f.lets r = f.lets r' := by
  have hcovers : ∀ d : Directive, d.covers r = d.covers r' := by
    intro d
    unfold Directive.covers
    rw [ht]
  have hdecisive : f.decisive? r = f.decisive? r' := by
    unfold Filter.decisive?
    simp only [hcovers]
  unfold Filter.lets
  rw [hdecisive, hl]

theorem filter_sublist_filter {lets lets' : Record → Bool} {events : List Record}
    (h : ∀ r ∈ events, lets r = true → lets' r = true) :
    (events.filter lets).Sublist (events.filter lets') := by
  have htwice : events.filter lets = (events.filter lets').filter lets := by
    rw [List.filter_filter]
    refine List.filter_congr fun r hr => ?_
    cases hlets : lets r with
    | false => rfl
    | true => rw [h r hr hlets, Bool.true_and]
  rw [htwice]
  exact List.filter_sublist

/-! ## Runs -/

/-- Whatever the two variables are set to, the reports are the same, and so is all that becomes of
    the process, with the calls of its engines and everything it logs. One filter is chosen, it
    goes by level and target, and the records it lets through are written in order, each once,
    also by a run that writes as it goes. Of two filters the one that lets through what the other
    does writes what the other writes. A host that listens for itself hears the same either way. -/
theorem logging_only_observes (linker : Linker) (steps : List Step) (env : Config.Environment)
    (ket rust ket' rust' : Option Bytes) :
    let e := withLogging env ket rust
    let e' := withLogging env ket' rust'
    let events := (runAll linker e steps).2.log
    (Alongside [] (run linker steps (.fresh e)) (run linker steps (.fresh e')) ∧
      runAll linker e' steps = runAll linker e steps ∧
      runHeard linker true e' steps = runHeard linker true e steps) ∧
    (∃! f, Chosen ket rust f) ∧
    (∀ f, Chosen ket rust f →
      (∀ r r' : Record, r.level = r'.level → r.target = r'.target → f.lets r = f.lets r') ∧
      runHeard linker false e steps =
        ((runAll linker e steps).1, ⟨events.filter f.lets, []⟩) ∧
      runAllWriting linker f.lets e steps =
        ((runAll linker e steps).1, events.filter f.lets)) ∧
    ∀ f g, Chosen ket rust f → Chosen ket' rust' g →
      (∀ r ∈ events, f.lets r = true → g.lets r = true) →
      (runHeard linker false e steps).2.written.Sublist
        (runHeard linker false e' steps).2.written := by
  intro e e' events
  have halike : AlikeAside e e' :=
    (AlikeAside.withLogging env ket rust).symm.trans (AlikeAside.withLogging env ket' rust')
  have hbeside : Beside [] (.fresh e) (.fresh e') := ⟨e', halike, rfl⟩
  have halong := run_beside linker steps hbeside
  have hall : runAll linker e' steps = runAll linker e steps := by
    show ((run linker steps (.fresh e')).1, (releaseAll (run linker steps (.fresh e')).2).process) =
      ((run linker steps (.fresh e)).1, (releaseAll (run linker steps (.fresh e)).2).process)
    rw [halong.1, (halong.2.releaseAll linker).process]
  have hchosen : Chosen ket rust (Filter.ofLookup e.lookup) := chosen_ofLookup env ket rust
  have hchosen' : Chosen ket' rust' (Filter.ofLookup e'.lookup) := chosen_ofLookup env ket' rust'
  refine ⟨⟨halong, hall, ?_⟩, ⟨_, hchosen, fun f hf => hf.unique hchosen⟩, ?_, ?_⟩
  · unfold runHeard
    rw [hall]
    rfl
  · intro f hf
    obtain rfl := hf.unique hchosen
    exact ⟨fun r r' => lets_congr _, rfl, runAllWriting_eq linker _ e steps⟩
  · intro f g hf hg hmore
    obtain rfl := hf.unique hchosen
    obtain rfl := hg.unique hchosen'
    have hwritten : (runHeard linker false e' steps).2.written =
        events.filter (Filter.ofLookup e'.lookup).lets := by
      unfold runHeard
      rw [hall]
      rfl
    rw [hwritten]
    exact filter_sublist_filter hmore

/-- Two objects that overlap. -/
def overlap : List Step :=
  [.make "a" (some (.list [.ofText ['k']])) (some (.ofText ['/', 'm'])),
   .make "b" (some (.tuple [])) (some (.ofText ['/', 'm']))]

/-- Records up to a verbosity go by their level alone. -/
theorem lets_upTo (limit : Nat) (r : Record) :
    (Filter.upTo limit).lets r = decide (r.level.verbosity ≤ limit) := rfl

/-- The first setting is no text, so the default is chosen, which lets the one warning through. -/
theorem overlap_only_observed :
    let linker := Linker.ofFiles ⟨.directory [([0x6d], .image "mock")], []⟩
    let e := withLogging [] (some [0xff]) none
    let e' := withLogging [] (some (Utf8.encode "debug".toList)) none
    (run linker overlap (.fresh e)).2.process.log.filter
      (Filter.upTo Level.warn.verbosity).lets = [Session.overlapping "/m" 1] ∧
    Chosen (some [0xff]) none (Filter.upTo Level.warn.verbosity) ∧
    (runHeard linker false e overlap).2.written.Sublist
      (runHeard linker false e' overlap).2.written := by
  intro linker e e'
  have hno : ∀ g, ¬ Reads (some [0xff]) g := by
    rintro g ⟨cs, hcs, -⟩
    have hdecode := Utf8.decode?_eq_some.mpr (Option.some.inj hcs)
    have hbroken : Utf8.decode? [0xff] = none := by decide +kernel
    rw [hbroken] at hdecode
    cases hdecode
  have hdefault : Chosen (some [0xff]) none (Filter.upTo Level.warn.verbosity) := by
    refine .neither hno ?_
    rintro g ⟨cs, hcs, -⟩
    cases hcs
  have hdebug : Chosen (some (Utf8.encode "debug".toList)) none
      (Filter.upTo Level.debug.verbosity) := .primary ⟨_, rfl, by decide +kernel⟩
  refine ⟨by decide +kernel, hdefault,
    (logging_only_observes linker overlap [] _ none _ none).2.2.2 _ _ hdefault hdebug
      fun r _ hr => ?_⟩
  rw [lets_upTo] at hr ⊢
  cases hl : r.level with
  | trace => simp [hl, Level.verbosity] at hr
  | _ => decide

end Host

end ScopedEngine
