/-
  ScopedEngine.Loader.Library — loading an engine library.

  Loading goes through stages: the configuration is valid, the image opens, the initializer is
  found, the finalizer is found. The first stage that fails gives the error. Each look-up of a
  name is logged when it starts, and success at the end; no entry point is called.
-/

import ScopedEngine.Config.Validity
import ScopedEngine.Loader.Linker
import ScopedEngine.Log.Record

namespace ScopedEngine

/-- The two functions that sessions on an engine call. -/
structure EntryPoints where
  init : EntryPoint
  finalize : EntryPoint
  deriving DecidableEq, Repr

/-- A loaded library. Each load makes a new one, told apart by `id`. -/
structure Library where
  id : Nat
  path : String
  symbols : Symbols
  entries : EntryPoints
  deriving DecidableEq, Repr

namespace Library

open Text in
def outline (l : Library) : Outline :=
  .record "EngineLibrary"
    [("library_path", .leaf (Quoted.ofString l.path)), ("symbols", l.symbols.outline)] true

end Library

namespace Loader

def resolving (name : String) : Record :=
  ⟨.trace, .engine, "resolving engine symbol '" ++ name ++ "'"⟩

def loaded (path : String) (s : Symbols) : Record :=
  ⟨.info, .engine, "loaded Ket engine library '" ++ path ++ "' (init '" ++ s.init
    ++ "', finalize '" ++ s.finalize ++ "')"⟩

/-- Opens an image and finds both entry points; what is logged on the way. -/
def load (linker : Linker) (path : Bytes) (s : Symbols) :
    Except EngineError EntryPoints × List Record :=
  let shown := Utf8.lossyString path
  match linker.openPath path with
  | .error cause => (.error (.loadFailed shown cause), [])
  | .ok image =>
    match image.find s.init with
    | .error cause => (.error (.symbolNotFound s.init cause), [resolving s.init])
    | .ok f =>
      match image.find s.finalize with
      | .error cause =>
        (.error (.symbolNotFound s.finalize cause), [resolving s.init, resolving s.finalize])
      | .ok g => (.ok ⟨f, g⟩, [resolving s.init, resolving s.finalize, loaded shown s])

/-- Validates a configuration and loads what it names. -/
def loadConfig (linker : Linker) (c : Config) : Except EngineError EntryPoints × List Record :=
  match c.validate with
  | .error e => (.error e, [])
  | .ok _ => load linker c.library c.symbols

end Loader

end ScopedEngine
