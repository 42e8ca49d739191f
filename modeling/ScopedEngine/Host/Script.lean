/-
  ScopedEngine.Host.Script — sessions as objects of a host language.

  An object is made open. It is closed by `close`, at the end of its scope, or when the last
  reference to it goes, whichever comes first; after that closing it does nothing. Its engine is
  the shared library of the default configuration with the variables of the environment laid
  over it, and with the library that the caller names over those.
-/

import ScopedEngine.Config.Overrides
import ScopedEngine.Host.Value
import ScopedEngine.Session

namespace ScopedEngine.Host

inductive Exception where
  | engine (e : EngineError)
  | wrongType
  | noAttribute
  | encode (run : LooseRun)
  | value (message : String)
  /-- A panic below the objects. It is no ordinary exception: handlers of those let it pass. -/
  | panic (message : String)
  deriving DecidableEq, Repr

namespace Exception

def className : Exception → String
  | engine _ => "EngineError"
  | wrongType => "TypeError"
  | noAttribute => "AttributeError"
  | encode _ => "UnicodeEncodeError"
  | value _ => "ValueError"
  | panic _ => "PanicException"

/-- Whether handlers of runtime errors catch it. -/
def isRuntimeError : Exception → Bool
  | engine _ => true
  | _ => false

/-- The text of those exceptions that are worded here. -/
def message? : Exception → Option String
  | engine e => some e.message
  | encode run => some run.message
  | value m => some m
  | panic m => some m
  | wrongType => none
  | noAttribute => none

def ofArgument : ArgumentFault → Exception
  | .wrongType => wrongType
  | .loose run => encode run

end Exception

/-- A session object: the session until it is closed, and the library's path. -/
structure Handle where
  inner : Option Session
  library : String
  deriving DecidableEq, Repr

namespace Handle

def isActive (h : Handle) : Bool := h.inner.any Session.isActive

def repr (h : Handle) : String :=
  "Session(library='" ++ h.library ++ "', active=" ++ (if h.isActive then "True" else "False")
    ++ ")"

/-- Ends the session, the first time. -/
def close (h : Handle) (p : Process) : Handle × Process :=
  match h.inner with
  | none => (h, p)
  | some s => ({ h with inner := none }, (s.close p).2)

end Handle

/-- The configuration of a new session. -/
def sessionConfig (library : Option Bytes) (look : Config.Lookup) : Config :=
  let c := Config.default.withOverrides look
  match library with
  | some path => { c with library := path }
  | none => c

/-- Opens a session on the shared library of a configuration. -/
def openOn (linker : Linker) (c : Config) (args : List Bytes) (p : Process) :
    Except Exception Handle × Process :=
  match p.loadShared linker c with
  | (.error e, p) => (.error (.engine e), p)
  | (.ok l, p) =>
    match Session.start (.library l) args p with
    | (.panicked m, p) => (.error (.panic m), p)
    | (.returned s, p) => (.ok ⟨some s, l.path⟩, p)

/-- Makes a session object. The arguments are looked at first, then the library. -/
def construct (linker : Linker) (look : Config.Lookup) (argv library : Option Value)
    (p : Process) : Except Exception Handle × Process :=
  match argv with
  | none => (.error .wrongType, p)
  | some argv =>
    match argv.arguments with
    | .error f => (.error (.ofArgument f), p)
    | .ok args =>
      match (library.getD .none).library with
      | .error f => (.error (.ofArgument f), p)
      | .ok path => openOn linker (sessionConfig path look) args p

/-! ## Steps on named objects -/

inductive Step where
  | make (name : String) (argv library : Option Value)
  | state (s : String)
  | close (s : String)
  | enter (s : String)
  | exit (s : String) (arguments : Nat)
  | scope (s : String) (body : List Step) (raises : Option String)
  | release (s : String)
  | assign (s : String)
  | setEnvironment (changes : List (String × Option Bytes))
  | active
  | about
  /-- Reads the record, through a handle that the observer keeps open. -/
  | recorder
  | unknown
  deriving Inhabited

inductive Fault where
  | noSuchSession
  | badStep
  deriving DecidableEq, Repr

structure Description where
  active : Bool
  library : String
  repr : String
  deriving DecidableEq, Repr

def describe (h : Handle) : Description := ⟨h.isActive, h.library, h.repr⟩

inductive Result where
  | nothing
  | flag (b : Bool)
  | description (d : Description)
  | raised (e : Exception)
  | count (n : Nat)
  | about
  | recorder (r : Recorder)
  | fault (f : Fault)

/-- What a step came to, the active sessions after it, and for a scope whether the object entered
    is the object itself, with the reports of the body. -/
inductive Report where
  | plain (r : Result) (active : Nat)
  | scoped (r : Result) (active : Nat) (entered : Bool) (inside : List Report)

/-- The module's fixed facts. -/
structure About where
  moduleName : String
  className : String
  errorAncestry : List String
  exported : List String

def about : About where
  moduleName := "ket._ketpy"
  className := "Session"
  errorAncestry := ["EngineError", "RuntimeError", "Exception", "BaseException", "object"]
  exported := ["EngineError", "Session", "active_sessions"]

structure State where
  process : Process
  environment : Config.Environment
  /-- Every object made, by number. -/
  handles : List Handle
  names : List (String × Nat)
  /-- The objects whose scope is open: a reference besides the name. -/
  held : List Nat

namespace State

def fresh (env : Config.Environment) : State := ⟨.fresh, env, [], [], []⟩

def id? (s : State) (name : String) : Option Nat := s.names.lookup name

def handle (s : State) (id : Nat) : Handle := s.handles[id]?.getD ⟨none, ""⟩

def closeId (s : State) (id : Nat) : State :=
  let (h, p) := (s.handle id).close s.process
  { s with process := p, handles := s.handles.set id h }

/-- A reference to an object goes; the last one closes it. -/
def letGo (s : State) (id : Nat) : State :=
  if s.held.contains id || s.names.any (·.2 == id) then s else s.closeId id

/-- Takes a name from its object. -/
def unname (s : State) (name : String) : State :=
  { s with names := s.names.filter (·.1 ≠ name) }

def setVariable (env : Config.Environment) (change : String × Option Bytes) :
    Config.Environment :=
  let rest := env.filter (·.1 ≠ change.1)
  match change.2 with
  | some v => (change.1, v) :: rest
  | none => rest

end State

/-- Makes an object under a name; the object that had it loses it afterwards. -/
def make (linker : Linker) (name : String) (argv library : Option Value) (s : State) :
    Result × State :=
  match construct linker s.environment.lookup argv library s.process with
  | (.error e, p) => (.raised e, { s with process := p })
  | (.ok h, p) =>
    let old := s.id? name
    let id := s.handles.length
    let s := { s.unname name with process := p, handles := s.handles ++ [h] }
    let s := { s with names := (name, id) :: s.names }
    let s := match old with
      | some old => s.letGo old
      | none => s
    (.description (describe h), s)

/-- A step that is about one object. -/
def withNamed (name : String) (f : Nat → State → Result × State) (s : State) : Result × State :=
  match s.id? name with
  | none => (.fault .noSuchSession, s)
  | some id => f id s

/-- Takes a name from its object. -/
def releaseNamed (name : String) : State → Result × State :=
  withNamed name fun id s => (.nothing, (s.unname name).letGo id)

mutual

def exec (linker : Linker) : Step → State → Report × State
  | .scope name body raises, s =>
    match s.id? name with
    | none => (.plain (.fault .noSuchSession) s.process.active, s)
    | some id =>
      let s := { s with held := id :: s.held }
      let (inside, s) := run linker body s
      let s := s.closeId id
      let s := { s with held := s.held.erase id }
      let s := s.letGo id
      let r := match raises with
        | some m => Result.raised (.value m)
        | none => .nothing
      (.scoped r s.process.active true inside, s)
  | .make name argv library, s => plainly (make linker name argv library s)
  | .state name, s =>
    plainly (withNamed name (fun id s => (.description (describe (s.handle id)), s)) s)
  | .close name, s => plainly (withNamed name (fun id s => (.nothing, s.closeId id)) s)
  | .enter name, s => plainly (withNamed name (fun _ s => (.flag true, s)) s)
  | .exit name arguments, s =>
    plainly (withNamed name (fun id s =>
      if 3 < arguments then (.raised .wrongType, s) else (.flag false, s.closeId id)) s)
  | .release name, s => plainly (releaseNamed name s)
  | .assign name, s => plainly (withNamed name (fun _ s => (.raised .noAttribute, s)) s)
  | .setEnvironment changes, s =>
    plainly (.nothing, { s with environment := changes.foldl State.setVariable s.environment })
  | .active, s => plainly (.count s.process.active, s)
  | .about, s => plainly (.about, s)
  | .recorder, s => plainly (.recorder s.process.recorder, s)
  | .unknown, s => plainly (.fault .badStep, s)
where
  plainly (x : Result × State) : Report × State := (.plain x.1 x.2.process.active, x.2)

def run (linker : Linker) : List Step → State → List Report × State
  | [], s => ([], s)
  | step :: steps, s =>
    let (r, s) := exec linker step s
    let (rs, s) := run linker steps s
    (r :: rs, s)

end

/-- Lets go of the objects that are left, in the order of their names. -/
def releaseAll (s : State) : State :=
  let names := (s.names.map (·.1)).mergeSort Utf8.inOrder
  names.foldl (fun s name => (releaseNamed name s).2) s

/-- A whole script: the reports, and the process after the last object is gone. -/
def runAll (linker : Linker) (env : Config.Environment) (steps : List Step) :
    List Report × Process :=
  let (reports, s) := run linker steps (.fresh env)
  (reports, (releaseAll s).process)

end ScopedEngine.Host
