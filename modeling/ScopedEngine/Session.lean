/-
  ScopedEngine.Session — one initializer call and the one finalizer call that answers it.

  A session begins when its initializer has returned and ends when it is closed, dropped or
  unwound past. It is marked as ended and no longer counted before its finalizer runs, so a
  finalizer that panics is not called again by the unwinding.
-/

import ScopedEngine.Process

namespace ScopedEngine

inductive SessionState where
  | active
  | finalized
  deriving DecidableEq, Repr

def SessionState.name : SessionState → String
  | active => "Active"
  | finalized => "Finalized"

structure Session where
  /-- Where its initializer call stands among all calls. -/
  place : Nat
  engine : Engine
  state : SessionState
  deriving DecidableEq, Repr

namespace Session

/-! ## What is logged -/

def overlapping (name : String) (active : Nat) : Record :=
  ⟨.warn, .session, "initializing engine '" ++ name ++ "' while " ++ toString active
    ++ " session(s) are still active"⟩

def opening (name : String) (v : Argv) : Record :=
  ⟨.debug, .session, "initializing engine '" ++ name ++ "' with argc " ++ toString v.argc ++ ": "
    ++ v.outline.compactString⟩

def opened (name : String) : Record :=
  ⟨.debug, .session, "opened session on engine '" ++ name ++ "'"⟩

def closed (name : String) : Record :=
  ⟨.debug, .session, "closed session on engine '" ++ name ++ "'"⟩

/-! ## Life -/

def isActive (s : Session) : Bool := s.state == .active

/-- Calls the initializer. A session comes into being only when it returns. -/
def start (e : Engine) (args : List Bytes) (p : Process) : Outcome Session × Process :=
  match Argv.marshal args with
  | .error m => (.panicked m, p)
  | .ok v =>
    let p := if 0 < p.active then p.say [overlapping e.name p.active] else p
    let p := p.say [opening e.name v]
    match p.callInit e v with
    | (.panicked m, p) => (.panicked m, p)
    | (.returned _, q) => (.returned ⟨p.calls.length, e, .active⟩, q.count.say [opened e.name])

/-- Ends a session that is active; does nothing to one that has ended. -/
def finish (s : Session) (p : Process) : Outcome Unit × Session × Process :=
  match s.state with
  | .finalized => (.returned (), s, p)
  | .active =>
    -- Marked and no longer counted first: a finalizer that panics is not called again.
    let s := { s with state := .finalized }
    match p.uncount.callFinalize s.place s.engine with
    | (.panicked m, p) => (.panicked m, s, p)
    | (.returned _, p) => (.returned (), s, p.say [closed s.engine.name])

/-- The last owner lets go of a session. -/
def drop (s : Session) (p : Process) : Outcome Unit × Process :=
  let (o, _, p) := s.finish p
  (o, p)

/-- Ends a session and lets go of it. -/
def close (s : Session) (p : Process) : Outcome Unit × Process :=
  let (o, s, p) := s.finish p
  let (_, p) := s.drop p
  (o, p)

/-- Lets go of sessions, in order, while a panic unwinds. -/
def unwind : List Session → Process → Process
  | [], p => p
  | s :: ss, p => unwind ss (s.drop p).2

open Text in
def outline (s : Session) : Outline :=
  .record "EngineSession"
    [("engine", .leaf (Quoted.ofString s.engine.name)), ("state", .leaf s.state.name.toList)] false

end Session

/-- States that hold the state of a process. -/
class HasProcess (σ : Type) where
  process : σ → Process
  withProcess : σ → Process → σ

instance : HasProcess Process := ⟨id, fun _ p => p⟩

/-- An action on the process as an action on the whole state. -/
def onProcess {σ α : Type} [HasProcess σ] (f : Process → α × Process) (s : σ) : α × σ :=
  let (a, p) := f (HasProcess.process s)
  (a, HasProcess.withProcess s p)

/-- Runs `body` inside a session, which ends when the body returns and when it panics. -/
def withSession {σ α : Type} [HasProcess σ] (e : Engine) (args : List Bytes)
    (body : Session → σ → Outcome α × σ) (s : σ) : Outcome α × σ :=
  match onProcess (Session.start e args) s with
  | (.panicked m, s) => (.panicked m, s)
  | (.returned session, s) =>
    match body session s with
    | (.panicked m, s) => (.panicked m, (onProcess session.drop s).2)
    | (.returned a, s) =>
      match onProcess session.close s with
      | (.panicked m, s) => (.panicked m, s)
      | (.returned _, s) => (.returned a, s)

end ScopedEngine
