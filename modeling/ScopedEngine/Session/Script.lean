/-
  ScopedEngine.Session.Script — steps on named engines and sessions, and a report of each.

  Every step is run to its end: what it panics with is part of its report. A report also holds
  what has been logged since the last one and the count of active sessions. Binding a name again
  lets go of what it was bound to after the new value is there.
-/

import ScopedEngine.Session

namespace ScopedEngine.Script

/-- How a library is loaded: as it is named, validated first, or shared as well. -/
inductive LoadKind where
  | plain
  | validated
  | shared
  deriving DecidableEq, Repr

/-- Steps; `ρ` is the type of the values that a body returns. -/
inductive Step (ρ : Type) where
  | load (kind : LoadKind) (name : String) (config : Config)
  | probe (name : String) (probe : Probe)
  | engine (e : String)
  | same (a b : String)
  | dropEngine (e : String)
  | start (name : String) (e : String) (args : List Bytes)
  | state (s : String)
  | close (s : String)
  | drop (s : String)
  | unwind (sessions : List String) (panic : String)
  | withSession (e : String) (args : List Bytes) (body : List (Step ρ)) (ends : Outcome ρ)
  | times (n : Nat) (steps : List (Step ρ))
  | active
  /-- Reads the record, through a handle that the observer keeps open; so do the next two. -/
  | recorder
  | recorderArg (i : Int)
  | recorderReset
  | unknown
  deriving Inhabited

inductive Fault where
  | noSuchEngine
  | noSuchSession
  | badStep
  deriving DecidableEq, Repr

/-- A session as it describes itself. -/
structure Description where
  state : SessionState
  engine : String
  debug : String
  deriving DecidableEq, Repr

def describe (s : Session) : Description := ⟨s.state, s.engine.name, s.outline.compactString⟩

/-- What a step comes to. -/
inductive Result (ρ : Type) where
  | nothing
  | done
  | fault (f : Fault)
  | error (e : EngineError)
  | panicked (message : String)
  | loaded (path : String)
  | library (l : Library)
  | probe (name : String) (calls : List ProbeCall)
  | same (b : Bool)
  | session (d : Description)
  /-- What was logged up to the body, the session, the reports of the body and its end. -/
  | visited (openLog : List Record) (d : Description) (steps : List (Result ρ × List Record × Nat))
      (ends : Outcome ρ)
  | repeated (times records : Nat)
  | count (n : Nat)
  | recorder (r : Recorder)
  | recorderArg (text : Option Bytes) (length : Nat)

/-- The result of a step, what was logged, and the active sessions after it. -/
abbrev Report (ρ : Type) := Result ρ × List Record × Nat

structure State where
  process : Process
  engines : List (String × Engine)
  sessions : List (String × Session)
  /-- How many records have been reported. -/
  reported : Nat

instance : HasProcess State := ⟨State.process, fun s p => { s with process := p }⟩

namespace State

def fresh : State := ⟨.fresh, [], [], 0⟩

def engine? (s : State) (name : String) : Option Engine := s.engines.lookup name

def session? (s : State) (name : String) : Option Session := s.sessions.lookup name

def bindEngine (s : State) (name : String) (e : Engine) : State :=
  { s with engines := (name, e) :: s.engines.filter (·.1 ≠ name) }

def bindSession (s : State) (name : String) (x : Session) : State :=
  { s with sessions := (name, x) :: s.sessions.filter (·.1 ≠ name) }

def forgetEngine (s : State) (name : String) : State :=
  { s with engines := s.engines.filter (·.1 ≠ name) }

def forgetSession (s : State) (name : String) : State :=
  { s with sessions := s.sessions.filter (·.1 ≠ name) }

/-- What has been logged since the last report. -/
def takeLog (s : State) : List Record × State :=
  (s.process.log.drop s.reported, { s with reported := s.process.log.length })

def report {ρ : Type} (r : Result ρ) (s : State) : Report ρ × State :=
  let (log, s) := s.takeLog
  ((r, log, s.process.active), s)

end State

/-- The result of letting go of a session. -/
def ended {ρ : Type} : Outcome Unit → Result ρ
  | .returned _ => .done
  | .panicked m => .panicked m

def loadResult {ρ : Type} (name : String) (s : State) :
    Except EngineError Library × Process → Result ρ × State
  | (.error e, p) => (.error e, { s with process := p })
  | (.ok l, p) => (.loaded l.path, ({ s with process := p } : State).bindEngine name (.library l))

def load {ρ : Type} (linker : Linker) (kind : LoadKind) (name : String) (c : Config) (s : State) :
    Result ρ × State :=
  loadResult name s (match kind with
    | .plain => s.process.load linker c.library c.symbols
    | .validated => s.process.loadConfig linker c
    | .shared => s.process.loadShared linker c)

def showEngine {ρ : Type} (e : String) (s : State) : Result ρ :=
  match s.engine? e with
  | none => .fault .noSuchEngine
  | some (.library l) => .library l
  | some (.probe id name) => .probe name ((s.process.probe? id).elim [] (·.calls))

def sameEngine {ρ : Type} (a b : String) (s : State) : Result ρ :=
  match s.engine? a, s.engine? b with
  | some (.library x), some (.library y) => .same (x.id == y.id)
  | _, _ => .fault .noSuchEngine

/-- Opens a session under a name; the session that had it is let go of afterwards. -/
def openAs {ρ : Type} (name e : String) (args : List Bytes) (s : State) : Result ρ × State :=
  match s.engine? e with
  | none => (.fault .noSuchEngine, s)
  | some e =>
    match onProcess (Session.start e args) s with
    | (.panicked m, s) => (.panicked m, s)
    | (.returned x, s) =>
      let old := s.session? name
      let s := s.bindSession name x
      match old with
      | none => (.session (describe x), s)
      | some old =>
        match onProcess old.drop s with
        | (.panicked m, s) => (.panicked m, s)
        | (.returned _, s) => (.session (describe x), s)

/-- Takes a session from its name and ends it. -/
def endNamed {ρ : Type} (name : String) (how : Session → Process → Outcome Unit × Process)
    (s : State) : Result ρ × State :=
  match s.session? name with
  | none => (.fault .noSuchSession, s)
  | some x =>
    let (o, s) := onProcess (how x) (s.forgetSession name)
    (ended o, s)

/-- Takes the named sessions that exist, each once. -/
def takeSessions : List String → State → List Session × State
  | [], s => ([], s)
  | n :: ns, s =>
    match s.session? n with
    | none => takeSessions ns s
    | some x =>
      let (xs, s) := takeSessions ns (s.forgetSession n)
      (x :: xs, s)

/-- The state of a script inside a session: what has been seen of the body so far. -/
structure Visit (ρ : Type) where
  state : State
  seen : Option (List Record × Description × List (Report ρ))

instance {ρ : Type} : HasProcess (Visit ρ) :=
  ⟨fun v => v.state.process, fun v p => { v with state := { v.state with process := p } }⟩

/-- The result of running a body inside a session. -/
def visited {ρ : Type} : Outcome ρ → Visit ρ → Result ρ
  | o, ⟨_, some (openLog, d, steps)⟩ => .visited openLog d steps o
  | .panicked m, ⟨_, none⟩ => .panicked m
  | .returned _, ⟨_, none⟩ => .nothing

mutual

def exec {ρ : Type} (linker : Linker) : Step ρ → State → Result ρ × State
  | .load kind name c, s => load linker kind name c s
  | .probe name probe, s =>
    let (p, e) := s.process.addProbe probe
    (.nothing, ({ s with process := p } : State).bindEngine name e)
  | .engine e, s => (showEngine e s, s)
  | .same a b, s => (sameEngine a b s, s)
  | .dropEngine e, s =>
    match s.engine? e with
    | none => (.fault .noSuchEngine, s)
    | some _ => (.done, s.forgetEngine e)
  | .start name e args, s => openAs name e args s
  | .state x, s =>
    match s.session? x with
    | none => (.fault .noSuchSession, s)
    | some x => (.session (describe x), s)
  | .close x, s => endNamed x Session.close s
  | .drop x, s => endNamed x Session.drop s
  | .unwind names panic, s =>
    let (xs, s) := takeSessions names s
    (.panicked panic, { s with process := Session.unwind xs s.process })
  | .withSession e args body ends, s =>
    match s.engine? e with
    | none => (.fault .noSuchEngine, s)
    | some e =>
      let inside := fun (x : Session) (v : Visit ρ) =>
        let (openLog, s) := v.state.takeLog
        let (reports, s) := run linker body s
        (ends, (⟨s, some (openLog, describe x, reports)⟩ : Visit ρ))
      let (o, v) := withSession e args inside ⟨s, none⟩
      (visited o v, v.state)
  | .times n steps, s =>
    let before := s.process.log.length
    let s := Nat.repeat (fun s => (run linker steps s).2) n s
    let (_, s) := s.takeLog
    (.repeated n (s.process.log.length - before), s)
  | .active, s => (.count s.process.active, s)
  | .recorder, s => (.recorder s.process.recorder, s)
  | .recorderArg i, s =>
    (.recorderArg (s.process.recorder.lastArg? i) (s.process.recorder.lastArgLength i), s)
  | .recorderReset, s => (.nothing, { s with process := s.process.resetRecorder })
  | .unknown, s => (.fault .badStep, s)

def run {ρ : Type} (linker : Linker) : List (Step ρ) → State → List (Report ρ) × State
  | [], s => ([], s)
  | step :: steps, s =>
    let (r, s) := exec linker step s
    let (report, s) := s.report r
    let (reports, s) := run linker steps s
    (report :: reports, s)

end

/-- The end of one of the sessions left. -/
structure Ending where
  name : String
  panic : Option String
  log : List Record
  active : Nat

/-- Lets go of the sessions that are left, in the order of their names. -/
def release : List (String × Session) → State → List Ending × State
  | [], s => ([], s)
  | (name, x) :: xs, s =>
    let (o, s) := onProcess x.drop (s.forgetSession name)
    let (log, s) := s.takeLog
    let panic := match o with | .panicked m => some m | .returned _ => none
    let ending : Ending := ⟨name, panic, log, s.process.active⟩
    let (rest, s) := release xs s
    (ending :: rest, s)

/-- A whole script: the reports, the endings and the letters of the calls. -/
def runAll {ρ : Type} (linker : Linker) (steps : List (Step ρ)) :
    List (Report ρ) × List Ending × String :=
  let (reports, s) := run linker steps .fresh
  let left := s.sessions.mergeSort fun a b => Utf8.inOrder a.1 b.1
  let (endings, s) := release left s
  (reports, endings, String.ofList s.process.recorder.events)

end ScopedEngine.Script
