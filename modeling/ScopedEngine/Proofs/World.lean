/-
  ScopedEngine.Proofs.World — what opening and ending a session can do, and the moves of a process.

  `start_cases` and `drop_active` say once what a session does to the count, the calls, the record
  and the log; nothing later unfolds `Session.start` or `Session.finish`. A `World` is a process
  with the engines within reach and the sessions that someone holds, wherever they are held. A
  `Move` loads, makes or forgets an engine, opens a session on an engine within reach, lets go of
  one that is held, or makes the recording engine blank. Programs differ in the order of moves
  only, so what every move keeps holds in every world within `Reach`.
-/

import Mathlib.Logic.Relation
import ScopedEngine.Session

namespace ScopedEngine

/-! ## What a call of an entry point changes -/

namespace Engine

/-- What the recording engine makes of a call of an initializer. -/
def onInit (e : Engine) (r : Recorder) (v : Argv) : Recorder :=
  match e with
  | .library l => r.callInit l.entries.init v
  | .probe _ _ => r

def onFinalize (e : Engine) (r : Recorder) : Recorder :=
  match e with
  | .library l => r.callFinalize l.entries.finalize
  | .probe _ _ => r

end Engine

namespace Process

/-- An initializer changes nothing of a process but the record and the probes. -/
theorem runInit_changes (p : Process) (e : Engine) (v : Argv) :
    ∃ o probes, p.runInit e v = (o, { p with recorder := e.onInit p.recorder v, probes := probes }) := by
  cases e with
  | library l => exact ⟨_, p.probes, rfl⟩
  | probe id name =>
    simp only [runInit, Engine.onInit]
    split
    · exact ⟨_, p.probes, rfl⟩
    · split
      · exact ⟨_, _, rfl⟩
      · exact ⟨_, _, rfl⟩

theorem runFinalize_changes (p : Process) (e : Engine) :
    ∃ o probes, p.runFinalize e = (o, { p with recorder := e.onFinalize p.recorder, probes := probes }) := by
  cases e with
  | library l => exact ⟨_, p.probes, rfl⟩
  | probe id name =>
    simp only [runFinalize, Engine.onFinalize]
    split
    · exact ⟨_, p.probes, rfl⟩
    · split
      · exact ⟨_, _, rfl⟩
      · exact ⟨_, _, rfl⟩

/-- Loading changes nothing of a process but the log, the libraries kept and their number. -/
theorem enrol_changes (p : Process) (path : Bytes) (s : Symbols)
    (x : Except EngineError EntryPoints × List Record) :
    ∃ r n, p.enrol path s x = (r, { p with log := p.log ++ x.2, loads := n }) := by
  unfold enrol
  dsimp only
  split
  · exact ⟨_, p.loads, rfl⟩
  · exact ⟨_, _, rfl⟩

theorem loadShared_changes (p : Process) (linker : Linker) (c : Config) :
    ∃ r log n shared, p.loadShared linker c =
      (r, { p with log := log, loads := n, shared := shared }) := by
  unfold loadShared
  split
  · exact ⟨_, p.log, p.loads, p.shared, rfl⟩
  · obtain ⟨r, n, hr⟩ := p.enrol_changes c.library c.symbols (Loader.loadConfig linker c)
    rw [loadConfig, hr]
    cases r with
    | error e => exact ⟨_, _, _, p.shared, rfl⟩
    | ok l => exact ⟨_, _, _, _, rfl⟩

/-- The ways to come by a library, and what each comes to. -/
inductive Loads (linker : Linker) (p : Process) : Except EngineError Library × Process → Prop
  | plain (path : Bytes) (s : Symbols) : Loads linker p (p.load linker path s)
  | validated (c : Config) : Loads linker p (p.loadConfig linker c)
  | shared (c : Config) : Loads linker p (p.loadShared linker c)

theorem Loads.changes {linker : Linker} {p : Process} {r : Except EngineError Library × Process}
    (h : p.Loads linker r) :
    ∃ log n shared, r.2 = { p with log := log, loads := n, shared := shared } := by
  cases h with
  | plain path s =>
    obtain ⟨x, n, hr⟩ := p.enrol_changes path s (Loader.load linker path s)
    exact ⟨_, n, p.shared, congrArg Prod.snd hr⟩
  | validated c =>
    obtain ⟨x, n, hr⟩ := p.enrol_changes c.library c.symbols (Loader.loadConfig linker c)
    exact ⟨_, n, p.shared, congrArg Prod.snd hr⟩
  | shared c =>
    obtain ⟨x, log, n, shared, hr⟩ := p.loadShared_changes linker c
    exact ⟨log, n, shared, congrArg Prod.snd hr⟩

/-- The count wraps round only when there is nothing to count down. -/
theorem uncount_active {p : Process} (h : 0 < p.active) : p.uncount.active + 1 = p.active := by
  have h0 : p.active ≠ 0 := by omega
  simp only [uncount, h0, if_false]
  omega

end Process

namespace Session

/-- What is logged before an initializer is called. -/
def announcements (e : Engine) (args : List Bytes) (active : Nat) : List Record :=
  (if 0 < active then [overlapping e.name active] else []) ++ [opening e.name (.ofList args)]

/-- The process when an initializer has been called and has come to `o`. -/
def called (e : Engine) (args : List Bytes) (p : Process) (o : Outcome Unit) (probes : List Probe) :
    Process :=
  { p with
    log := p.log ++ announcements e args p.active
    calls := p.calls ++ [.init e args p.active o]
    recorder := e.onInit p.recorder (.ofList args)
    probes := probes }

/-- With arguments that fit the initializer is called. -/
theorem start_called {args : List Bytes} (hn : args.length ≤ Argv.maxArgc) (e : Engine)
    (p : Process) :
    (∃ m probes, start e args p = (.panicked m, called e args p (.panicked m) probes)) ∨
    ∃ probes, start e args p = (.returned ⟨p.calls.length, e, .active⟩,
      (called e args p (.returned ()) probes).count.say [opened e.name]) := by
  have hm : Argv.marshal args = .ok (.ofList args) := if_pos hn
  simp only [start, hm]
  generalize hp : (if 0 < p.active then p.say [overlapping e.name p.active] else p) = p1
  have hp1 : p1.say [opening e.name (.ofList args)] =
      { p with log := p.log ++ announcements e args p.active } := by
    rw [← hp]
    unfold announcements
    split <;> simp [Process.say]
  rw [hp1]
  obtain ⟨o, probes, hrun⟩ := Process.runInit_changes
    { p with log := p.log ++ announcements e args p.active } e (.ofList args)
  simp only [Process.callInit, hrun, Argv.toList_ofList]
  cases o with
  | panicked m => exact .inl ⟨m, probes, rfl⟩
  | returned a => exact .inr ⟨probes, rfl⟩

/-- With too many arguments nothing is done. -/
theorem start_tooMany {args : List Bytes} (hn : ¬ args.length ≤ Argv.maxArgc) (e : Engine)
    (p : Process) : start e args p = (.panicked (Argv.tooMany args.length), p) := by
  have hm : Argv.marshal args = .error (Argv.tooMany args.length) := if_neg hn
  simp only [start, hm]

/-- All that opening a session can come to: too many arguments, and nothing is done; the
    initializer is called and panics; it is called and returns. -/
theorem start_cases (e : Engine) (args : List Bytes) (p : Process) :
    start e args p = (.panicked (Argv.tooMany args.length), p) ∨
    (∃ m probes, start e args p = (.panicked m, called e args p (.panicked m) probes)) ∨
    ∃ probes, start e args p = (.returned ⟨p.calls.length, e, .active⟩,
      (called e args p (.returned ()) probes).count.say [opened e.name]) := by
  by_cases hn : args.length ≤ Argv.maxArgc
  · exact .inr (start_called hn e p)
  · exact .inl (start_tooMany hn e p)

theorem start_returned {e : Engine} {args : List Bytes} {p q : Process} {s : Session}
    (h : start e args p = (.returned s, q)) :
    s = ⟨p.calls.length, e, .active⟩ ∧
      ∃ probes, q = (called e args p (.returned ()) probes).count.say [opened e.name] := by
  rcases start_cases e args p with hc | ⟨m, probes, hc⟩ | ⟨probes, hc⟩
  · cases hc.symm.trans h
  · cases hc.symm.trans h
  · cases hc.symm.trans h
    exact ⟨rfl, probes, rfl⟩

theorem start_panicked {e : Engine} {args : List Bytes} {p q : Process} {m : String}
    (h : start e args p = (.panicked m, q)) :
    q = p ∨ ∃ probes, q = called e args p (.panicked m) probes := by
  rcases start_cases e args p with hc | ⟨m', probes, hc⟩ | ⟨probes, hc⟩
  · cases hc.symm.trans h
    exact .inl rfl
  · cases hc.symm.trans h
    exact .inr ⟨probes, rfl⟩
  · cases hc.symm.trans h

/-- A library never panics. -/
theorem start_library (l : Library) {args : List Bytes} (hn : args.length ≤ Argv.maxArgc)
    (p : Process) : ∃ s q, start (.library l) args p = (.returned s, q) := by
  have hm : Argv.marshal args = .ok (.ofList args) := if_pos hn
  simp only [start, hm, Process.callInit, Process.runInit]
  exact ⟨_, _, rfl⟩

/-- No session on a library is refused but for too many arguments, and then nothing is done. -/
theorem start_library_panicked {l : Library} {args : List Bytes} {p q : Process} {m : String}
    (h : start (.library l) args p = (.panicked m, q)) : q = p := by
  rcases start_panicked h with hq | ⟨probes, hq⟩
  · exact hq
  · by_cases hn : args.length ≤ Argv.maxArgc
    · obtain ⟨s, q', hs⟩ := start_library l hn p
      cases hs.symm.trans h
    · rw [start_tooMany hn] at h
      exact (congrArg Prod.snd h).symm

/-- Letting go of an active session counts it down and calls its finalizer once, whatever that
    comes to. -/
theorem drop_active {s : Session} (hs : s.state = .active) (p : Process) :
    ∃ o probes, s.drop p = (o, { p with
      active := p.uncount.active
      log := p.log ++ (if o = .returned () then [closed s.engine.name] else [])
      calls := p.calls ++ [.finalize s.place s.engine p.uncount.active o]
      recorder := s.engine.onFinalize p.recorder
      probes := probes }) := by
  obtain ⟨o, probes, hrun⟩ := p.uncount.runFinalize_changes s.engine
  refine ⟨o, probes, ?_⟩
  simp only [drop, finish, hs, Process.callFinalize, hrun]
  cases o with
  | panicked m => simp [Process.remember, Process.uncount]
  | returned a => simp [Process.remember, Process.uncount, Process.say]

theorem drop_finalized {s : Session} (hs : s.state = .finalized) (p : Process) :
    s.drop p = (.returned (), p) := by
  simp only [drop, finish, hs]

/-- Closing marks the session before its finalizer runs, so that the drop that follows does
    nothing. -/
theorem close_eq_drop (s : Session) (p : Process) : s.close p = s.drop p := by
  have h : (s.finish p).2.1.state = .finalized := by
    unfold finish
    split
    · assumption
    · dsimp only
      split <;> rfl
  unfold close
  rcases hf : s.finish p with ⟨o, t, q⟩
  rw [hf] at h
  simp only [drop, hf]
  simp only [finish, show t.state = .finalized from h]

end Session

/-- What a scope comes to when its body has come to `o` and the end of its session to `o'`. -/
def Outcome.through {α : Type} (o : Outcome α) (o' : Outcome Unit) : Outcome α :=
  match o, o' with
  | .panicked m, _ => .panicked m
  | .returned _, .panicked m => .panicked m
  | .returned a, .returned _ => .returned a

/-- A scope whose initializer panics runs no body. Any other lets go of its session after the body,
    however the body ends. -/
theorem withSession_eq {σ α : Type} [HasProcess σ] (e : Engine) (args : List Bytes)
    (body : Session → σ → Outcome α × σ) (s : σ) :
    withSession e args body s =
      match onProcess (Session.start e args) s with
      | (.panicked m, s) => (.panicked m, s)
      | (.returned x, s) =>
        let (o, t) := body x s
        let (o', t) := onProcess x.drop t
        (o.through o', t) := by
  unfold withSession
  rcases onProcess (Session.start e args) s with ⟨x | m, s⟩
  · dsimp only
    rcases body x s with ⟨a | m, t⟩
    · simp only [show x.close = x.drop from funext (x.close_eq_drop)]
      rcases onProcess x.drop t with ⟨_ | m, t⟩ <;> rfl
    · rfl
  · rfl

/-! ## Moves -/

/-- A process, the engines within reach and the sessions that are held. -/
structure World where
  process : Process
  engines : List Engine
  held : List Session

namespace World

def fresh : World := ⟨.fresh, [], []⟩

/-- The world after a load: a library that was loaded is within reach. -/
def loaded (w : World) (r : Except EngineError Library × Process) : World :=
  { w with
    process := r.2
    engines := match r.1 with
      | .ok l => .library l :: w.engines
      | .error _ => w.engines }

inductive Move (linker : Linker) : World → World → Prop
  | load (w : World) {r : Except EngineError Library × Process} : w.process.Loads linker r →
      Move linker w (w.loaded r)
  | probe (p : Process) (es : List Engine) (held : List Session) (probe : Probe) :
      Move linker ⟨p, es, held⟩ ⟨(p.addProbe probe).1, (p.addProbe probe).2 :: es, held⟩
  | forget {p : Process} {es es' : List Engine} {held : List Session} : es' ⊆ es →
      Move linker ⟨p, es, held⟩ ⟨p, es', held⟩
  /-- An initializer returns, and its session is held. -/
  | opens {p q : Process} {es : List Engine} {held : List Session} {e : Engine} {args : List Bytes}
      {s : Session} : e ∈ es → Session.start e args p = (.returned s, q) →
      Move linker ⟨p, es, held⟩ ⟨q, es, s :: held⟩
  /-- An initializer panics, or is not called for too many arguments. -/
  | refuses {p q : Process} {es : List Engine} {held : List Session} {e : Engine}
      {args : List Bytes} {m : String} : e ∈ es → Session.start e args p = (.panicked m, q) →
      Move linker ⟨p, es, held⟩ ⟨q, es, held⟩
  /-- Closed, dropped or unwound past, which is the same (`Session.close_eq_drop`). -/
  | drop (p : Process) (es : List Engine) (s : Session) (held : List Session) :
      Move linker ⟨p, es, s :: held⟩ ⟨(s.drop p).2, es, held⟩
  /-- Who holds a session, and in which order, does not matter. -/
  | pass {p : Process} {es : List Engine} {held held' : List Session} : held.Perm held' →
      Move linker ⟨p, es, held⟩ ⟨p, es, held'⟩
  | reset (p : Process) (es : List Engine) (held : List Session) :
      Move linker ⟨p, es, held⟩ ⟨p.resetRecorder, es, held⟩

/-- Any number of moves. -/
abbrev Path (linker : Linker) : World → World → Prop := Relation.ReflTransGen (Move linker)

def Reach (linker : Linker) (w : World) : Prop := Path linker fresh w

end World

end ScopedEngine
