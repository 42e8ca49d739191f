/-
  ScopedEngine.Config.Basic — where an engine lives and what its entry points are called.

  Configurations are compared by `key`: the components of the library path and the two names.
-/

import ScopedEngine.Path
import ScopedEngine.Text.Outline
import ScopedEngine.Text.Quoted

namespace ScopedEngine

/-- The names of the two entry points of an engine. -/
structure Symbols where
  init : String
  finalize : String
  deriving DecidableEq, Hashable, Repr

structure Config where
  /-- A path, or a bare name that the loader searches. -/
  library : Bytes
  symbols : Symbols
  deriving DecidableEq, Repr

namespace Symbols

def default : Symbols := ⟨"ket_init_new", "ket_init_free"⟩

open Text in
def outline (s : Symbols) : Outline :=
  .record "EngineSymbols"
    [("init", .leaf (Quoted.ofString s.init)), ("finalize", .leaf (Quoted.ofString s.finalize))]
    false

end Symbols

namespace Config

def defaultLibrary : Bytes := Utf8.ofString "libket.so"

def default : Config := ⟨defaultLibrary, .default⟩

/-- The default names at another path. -/
def withLibrary (path : Bytes) : Config := ⟨path, .default⟩

def key (c : Config) : List Path.Component × Symbols := (Path.components c.library, c.symbols)

/-- Equality of configurations, by components of the path. -/
def same (a b : Config) : Bool := a.key == b.key

/-- Equal configurations have equal hashes. -/
def hash (c : Config) : UInt64 := Hashable.hash c.key

theorem hash_eq_of_same {a b : Config} (h : a.same b = true) : a.hash = b.hash := by
  rw [hash, hash, eq_of_beq h]

open Text in
def outline (c : Config) : Outline :=
  .record "EngineConfig"
    [("library", .leaf (Quoted.ofBytes c.library)), ("symbols", c.symbols.outline)] false

end Config

end ScopedEngine
