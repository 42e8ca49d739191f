/-
  ScopedEngine.Process — what all sessions of a process share.

  The count of active sessions, the log, every call of an entry point (`Call`), the record of the
  recording engine, the engines that live in the process (`Probe`), and the libraries loaded for
  good, by configuration (`loadShared`).
-/

import ScopedEngine.Loader.Library

namespace ScopedEngine

/-- What a call comes to: a value, or a panic that unwinds to whoever catches it. -/
inductive Outcome (α : Type) where
  | returned (a : α)
  | panicked (message : String)
  deriving DecidableEq, Repr

/-- What a probe does to the arguments it is given. -/
inductive ProbeMode where
  | keep
  /-- Reverses the slots, the last one aside. -/
  | reverse
  /-- Writes over the first byte of every argument that is seen as more than nothing. -/
  | scribble
  deriving DecidableEq, Repr

/-- A call of a probe as it remembers it. -/
inductive ProbeCall where
  | init (argc : Nat) (before after : List (Option Bytes)) (owned : List Bytes) (active : Nat)
  | finalize (active : Nat)
  deriving DecidableEq, Repr

/-- What the calls of an entry point panic with, if they do: the next ones as listed, all others
    alike. -/
structure Course where
  listed : List (Option String)
  later : Option String
  deriving DecidableEq, Repr

instance : Coe (Option String) Course := ⟨fun panic => ⟨[], panic⟩⟩

def Course.next (c : Course) : Option String := c.listed.headD c.later

def Course.rest (c : Course) : Course := { c with listed := c.listed.tail }

/-- An engine inside the process, which does as it is told and remembers every call. -/
structure Probe where
  name : String
  mode : ProbeMode
  initPanic : Course
  finalizePanic : Course
  calls : List ProbeCall
  deriving DecidableEq, Repr

inductive Engine where
  | library (l : Library)
  | probe (id : Nat) (name : String)
  deriving DecidableEq, Repr

namespace Engine

/-- The name in log records. -/
def name : Engine → String
  | library l => l.path
  | probe _ name => name

end Engine

/-- A call of an entry point, with the sessions active while it ran and what it came to. -/
inductive Call where
  | init (engine : Engine) (args : List Bytes) (active : Nat) (ends : Outcome Unit)
  /-- For the session whose initializer call stands at `place` among all calls. -/
  | finalize (place : Nat) (engine : Engine) (active : Nat) (ends : Outcome Unit)
  /-- The recording engine is made blank from outside. -/
  | reset
  deriving DecidableEq, Repr

structure Process where
  /-- Sessions between the return of their initializer and their end. -/
  active : Nat
  log : List Record
  calls : List Call
  /-- The record, which lives in the image of the recording engine. It is read and made blank
      through a handle that an observer keeps open, so the image is never unloaded; without one the
      record would go with the last handle of a library that is not shared. -/
  recorder : Recorder
  probes : List Probe
  /-- The libraries that stay loaded, under the configurations they were loaded for. -/
  shared : List (Config × Library)
  /-- How many libraries have been loaded. -/
  loads : Nat
  deriving Repr

namespace Process

def fresh : Process := ⟨0, [], [], .blank, [], [], 0⟩

def say (p : Process) (rs : List Record) : Process := { p with log := p.log ++ rs }

def remember (p : Process) (c : Call) : Process := { p with calls := p.calls ++ [c] }

/-- One session more. -/
def count (p : Process) : Process := { p with active := p.active + 1 }

/-- One session less. The count is a word, which wraps round below zero. -/
def uncount (p : Process) : Process :=
  { p with active := if p.active = 0 then 0xffffffffffffffff else p.active - 1 }

/-! ## Engines -/

/-- A new probe. -/
def addProbe (p : Process) (probe : Probe) : Process × Engine :=
  ({ p with probes := p.probes ++ [probe] }, .probe p.probes.length probe.name)

def probe? (p : Process) (id : Nat) : Option Probe := p.probes[id]?

/-- Makes a library of what a load came to. -/
def enrol (p : Process) (path : Bytes) (s : Symbols)
    (r : Except EngineError EntryPoints × List Record) : Except EngineError Library × Process :=
  let p := p.say r.2
  match r.1 with
  | .error e => (.error e, p)
  | .ok entries =>
    (.ok ⟨p.loads, Utf8.lossyString path, s, entries⟩, { p with loads := p.loads + 1 })

def load (p : Process) (linker : Linker) (path : Bytes) (s : Symbols) :
    Except EngineError Library × Process :=
  p.enrol path s (Loader.load linker path s)

def loadConfig (p : Process) (linker : Linker) (c : Config) :
    Except EngineError Library × Process :=
  p.enrol c.library c.symbols (Loader.loadConfig linker c)

def findShared (p : Process) (c : Config) : Option Library :=
  (p.shared.find? fun e => e.1.same c).map (·.2)

/-- The library of an equal configuration loaded before, or a new one, which is kept. -/
def loadShared (p : Process) (linker : Linker) (c : Config) :
    Except EngineError Library × Process :=
  match p.findShared c with
  | some l => (.ok l, p)
  | none =>
    match p.loadConfig linker c with
    | (.error e, p) => (.error e, p)
    | (.ok l, p) => (.ok l, { p with shared := p.shared ++ [(c, l)] })

/-! ## Calls -/

/-- The actions of a probe on the vector it is given. -/
def ProbeMode.actions (mode : ProbeMode) (v : Argv) : List Argv.Action :=
  match mode with
  | .keep => []
  | .reverse => (List.range (v.argc / 2)).map fun i => .swap i (v.argc - 1 - i)
  | .scribble =>
    ((v.seen.take v.argc).zipIdx.filter fun s => s.1.any (· ≠ [])).map fun s => .write s.2 0 0x58

/-- Replaces a probe. -/
def setProbe (p : Process) (id : Nat) (probe : Probe) : Process :=
  { p with probes := p.probes.set id probe }

/-- What an engine does when its initializer is called. -/
def runInit (p : Process) (e : Engine) (v : Argv) : Outcome Unit × Process :=
  match e with
  | .library l => (.returned (), { p with recorder := p.recorder.callInit l.entries.init v })
  | .probe id _ =>
    match p.probe? id with
    | none => (.returned (), p)
    | some probe =>
      let told := { probe with initPanic := probe.initPanic.rest }
      match probe.initPanic.next with
      | some m => (.panicked m, p.setProbe id told)
      | none =>
        let after := v.actAll (ProbeMode.actions probe.mode v)
        let call := ProbeCall.init v.argc v.seen after.seen after.toList p.active
        (.returned (), p.setProbe id { told with calls := told.calls ++ [call] })

/-- What an engine does when its finalizer is called. -/
def runFinalize (p : Process) (e : Engine) : Outcome Unit × Process :=
  match e with
  | .library l =>
    (.returned (), { p with recorder := p.recorder.callFinalize l.entries.finalize })
  | .probe id _ =>
    match p.probe? id with
    | none => (.returned (), p)
    | some probe =>
      let told := { probe with
        finalizePanic := probe.finalizePanic.rest
        calls := probe.calls ++ [.finalize p.active] }
      match probe.finalizePanic.next with
      | some m => (.panicked m, p.setProbe id told)
      | none => (.returned (), p.setProbe id told)

/-- Calls the initializer of an engine. -/
def callInit (p : Process) (e : Engine) (v : Argv) : Outcome Unit × Process :=
  let (o, q) := p.runInit e v
  (o, q.remember (.init e v.toList p.active o))

/-- Calls the finalizer of an engine, for the session whose initializer call stands at `place`. -/
def callFinalize (p : Process) (place : Nat) (e : Engine) : Outcome Unit × Process :=
  let (o, q) := p.runFinalize e
  (o, q.remember (.finalize place e p.active o))

/-- Makes the recording engine blank, through the observer's handle. -/
def resetRecorder (p : Process) : Process :=
  ({ p with recorder := p.recorder.reset } : Process).remember .reset

end Process

end ScopedEngine
