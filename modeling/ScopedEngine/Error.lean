/-
  ScopedEngine.Error — why a configuration is refused or an engine cannot be loaded.

  Every error is a cause; `message` words it.
-/

import ScopedEngine.Config.Document
import ScopedEngine.Files

namespace ScopedEngine

/-- The two entry points by their roles. -/
inductive Role where
  | init
  | finalize
  deriving DecidableEq, Repr

inductive ConfigFault where
  | emptyLibrary
  | emptySymbol (role : Role)
  | nulInSymbol (role : Role)
  /-- The file is not one YAML document. -/
  | malformed (e : Yaml.SyntaxError)
  | document (e : Config.DocumentError)
  deriving DecidableEq, Repr

/-- Why bytes make no C string: a NUL inside. -/
inductive CStringFault where
  | nulInside
  | nulBeforeLast
  deriving DecidableEq, Repr

inductive OpenFault where
  | name (f : CStringFault)
  | path (shown : String) (f : PathFault)
  | directory (shown : String)
  | tooShort (shown : String)
  | notImage (shown : String)
  deriving DecidableEq, Repr

inductive ResolveFault where
  | name (f : CStringFault)
  | undefined (image symbol : String)
  deriving DecidableEq, Repr

inductive EngineError where
  | loadFailed (path : String) (cause : OpenFault)
  | symbolNotFound (symbol : String) (cause : ResolveFault)
  | config (fault : ConfigFault)
  | io (fault : IoFault)
  deriving DecidableEq, Repr

def Role.name : Role → String
  | .init => "init"
  | .finalize => "finalize"

def ConfigFault.message : ConfigFault → String
  | .emptyLibrary => "library path must not be empty"
  | .emptySymbol role => role.name ++ " symbol name must not be empty"
  | .nulInSymbol role => role.name ++ " symbol name contains a NUL byte"
  | .malformed _ => "not a YAML document"
  | .document e => e.message

def CStringFault.message : CStringFault → String
  | .nulInside => "could not create a C string from bytes"
  | .nulBeforeLast => "could not create a C string from bytes with trailing null"

def OpenFault.message : OpenFault → String
  | .name f => f.message
  | .path shown f => shown ++ ": cannot open shared object file: " ++ f.text
  | .directory shown => shown ++ ": cannot read file data: Is a directory"
  | .tooShort shown => shown ++ ": file too short"
  | .notImage shown => shown ++ ": invalid ELF header"

def ResolveFault.message : ResolveFault → String
  | .name f => f.message
  | .undefined image symbol => image ++ ": undefined symbol: " ++ symbol

def EngineError.message : EngineError → String
  | .loadFailed path cause =>
    "failed to load engine library at '" ++ path ++ "': " ++ cause.message
  | .symbolNotFound symbol cause =>
    "symbol '" ++ symbol ++ "' not found in engine library: " ++ cause.message
  | .config fault => "invalid engine configuration: " ++ fault.message
  | .io fault => "I/O error: " ++ fault.message

end ScopedEngine
