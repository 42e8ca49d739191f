/-
  ScopedEngine.Config.Overrides — values of variables laid over a configuration.

  `LIBKET_PATH` names the library, and `KET_LIBRARY_PATH` where that one is missing or empty;
  `KET_INIT_SYMBOL` and `KET_FINALIZE_SYMBOL` name the entry points. Empty values do not count.
-/

import ScopedEngine.Config.Basic

namespace ScopedEngine.Config

def libraryVariable : String := "LIBKET_PATH"

def libraryAlias : String := "KET_LIBRARY_PATH"

def initVariable : String := "KET_INIT_SYMBOL"

def finalizeVariable : String := "KET_FINALIZE_SYMBOL"

/-- What variables are looked up in. -/
abbrev Lookup := String → Option String

/-- A value that counts. -/
def Lookup.get (look : Lookup) (name : String) : Option String := (look name).filter (· ≠ "")

/-- The library that the variables name. -/
def Lookup.library? (look : Lookup) : Option String :=
  (look.get libraryVariable).or (look.get libraryAlias)

def withOverrides (c : Config) (look : Lookup) : Config where
  library := match look.library? with
    | some path => Utf8.ofString path
    | none => c.library
  symbols := {
    init := (look.get initVariable).getD c.symbols.init
    finalize := (look.get finalizeVariable).getD c.symbols.finalize }

/-- The variables in the order in which `withOverrides` asks for them. -/
def asked (look : Lookup) : List String :=
  (if (look.get libraryVariable).isSome then [libraryVariable] else [libraryVariable, libraryAlias])
    ++ [initVariable, finalizeVariable]

/-- The variables of a process; their values are bytes. -/
abbrev Environment := List (String × Bytes)

/-- A value that is not text counts as not set. -/
def Environment.lookup (env : Environment) : Lookup := fun name =>
  (List.lookup name env).bind Utf8.toString?

def withEnvironment (c : Config) (env : Environment) : Config := c.withOverrides env.lookup

def ofEnvironment (env : Environment) : Config := Config.default.withEnvironment env

end ScopedEngine.Config
