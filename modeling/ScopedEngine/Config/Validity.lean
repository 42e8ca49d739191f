/-
  ScopedEngine.Config.Validity — which configurations can be loaded, and reading a file.

  A library path is not empty; a symbol name is not empty and holds no NUL. The library is
  looked at first, then the initializer, then the finalizer.
-/

import ScopedEngine.Error

namespace ScopedEngine.Config

/-- The fault of a symbol name. -/
def symbolFault? (role : Role) (name : String) : Option ConfigFault :=
  if name = "" then some (.emptySymbol role)
  else if name.toList.contains '\x00' then some (.nulInSymbol role)
  else none

/-- The first fault of a configuration. -/
def fault? (c : Config) : Option ConfigFault :=
  if c.library = [] then some .emptyLibrary
  else (symbolFault? .init c.symbols.init).or (symbolFault? .finalize c.symbols.finalize)

def validate (c : Config) : Except EngineError Unit :=
  match c.fault? with
  | some f => .error (.config f)
  | none => .ok ()

/-- The configuration that a text holds, if it is valid. -/
def ofText (s : List Char) : Except EngineError Config :=
  match Yaml.Document.ofText s with
  | .error e => .error (.config (.malformed e))
  | .ok d =>
    match ofDocument d with
    | .error e => .error (.config (.document e))
    | .ok c => c.validate.map fun _ => c

/-- The configuration in a file. -/
def ofFile (files : Files) (path : Bytes) : Except EngineError Config :=
  match files.read path with
  | .error e => .error (.io e)
  | .ok s => ofText s

end ScopedEngine.Config
