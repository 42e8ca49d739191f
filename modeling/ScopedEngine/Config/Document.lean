/-
  ScopedEngine.Config.Document — a configuration read from a YAML document.

  The root is a mapping; `library` and `symbols` are its keys, `init` and `finalize` those of
  `symbols`, each at most once. Every scalar is taken as its text. Other keys are passed over.
  The first offence in the order of the document is the error, with its path and its place.
-/

import ScopedEngine.Config.Basic
import ScopedEngine.Yaml.Reading

namespace ScopedEngine.Config

open Yaml

/-- What stands where something else is expected. -/
inductive Found where
  | sequence
  | mapping
  | reading (r : Reading)
  deriving DecidableEq, Repr

inductive Expected where
  | config
  | symbols
  | path
  | string
  | key
  deriving DecidableEq, Repr

inductive Offence where
  | wrongType (found : Found) (expected : Expected)
  /-- A scalar does not meet the demand of its own tag. -/
  | wrongValue (text : List Char) (demand : Demand)
  | duplicate (field : String)
  deriving DecidableEq, Repr

/-- A step from a mapping to a value: the text of the key, unless the key is an alias. -/
abbrev Segment := Option (List Char)

structure DocumentError where
  path : List Segment
  offence : Offence
  mark : Mark
  deriving DecidableEq, Repr

namespace Found

def describe : Found → List Char
  | .sequence => "sequence".toList
  | .mapping => "map".toList
  | .reading r => r.describe

end Found

def Expected.name : Expected → String
  | .config => "struct EngineConfig"
  | .symbols => "struct EngineSymbols"
  | .path => "path string"
  | .string => "a string"
  | .key => "field identifier"

def Offence.message : Offence → List Char
  | .wrongType found expected =>
    "invalid type: ".toList ++ found.describe ++ ", expected ".toList ++ expected.name.toList
  | .wrongValue text demand =>
    "invalid value: string ".toList ++ Text.Quoted.ofChars text ++ ", expected ".toList
      ++ demand.name.toList
  | .duplicate field => "duplicate field `".toList ++ field.toList ++ ['`']

def Segment.show : Segment → List Char
  | some key => key
  | none => ['?']

namespace DocumentError

def pathText (path : List Segment) : List Char :=
  match path with
  | [] => []
  | _ => List.intercalate ['.'] (path.map Segment.show) ++ ": ".toList

/-- The very start of the text is not named. -/
def markText (m : Mark) : List Char :=
  if m = .start then []
  else
    " at line ".toList ++ (toString (m.line + 1)).toList ++ " column ".toList
      ++ (toString (m.column + 1)).toList

def message (e : DocumentError) : String :=
  String.ofList (pathText e.path ++ e.offence.message ++ markText e.mark)

end DocumentError

/-- The offence of a node that is not what is expected. -/
def mismatch (n : Node) (expected : Expected) : Offence :=
  match n with
  | .sequence _ _ => .wrongType .sequence expected
  | .mapping _ _ => .wrongType .mapping expected
  | .aliasOf _ _ => .wrongType .mapping expected
  | .scalar _ s =>
    match s.reading with
    | .ok r => .wrongType (.reading r) expected
    | .error d => .wrongValue s.text d

/-- The text of a scalar, whatever it reads as. -/
def scalarText (d : Document) (n : Node) (expected : Expected) (path : List Segment) :
    Except DocumentError (List Char) :=
  match d.resolve n with
  | .scalar _ s => .ok s.text
  | n => .error ⟨path, mismatch n expected, n.mark⟩

/-- The step to the value of a key. -/
def segment : Node → Segment
  | .scalar _ s => some s.text
  | _ => none

/-- The entries of a mapping; an empty plain scalar is an empty mapping. -/
def entriesOf (d : Document) (n : Node) (expected : Expected) (path : List Segment) :
    Except DocumentError (Mark × List (Node × Node)) :=
  match d.resolve n with
  | .mapping m es => .ok (m, es)
  | .scalar m s =>
    if s.text = [] && s.style = .plain then .ok (m, [])
    else .error ⟨path, mismatch (.scalar m s) expected, m⟩
  | n => .error ⟨path, mismatch n expected, n.mark⟩

/-- The names as far as they have been met. -/
structure SymbolFields where
  init : Option String
  finalize : Option String
  deriving DecidableEq, Repr

def symbolFields (d : Document) (m : Mark) (path : List Segment) :
    List (Node × Node) → SymbolFields → Except DocumentError SymbolFields
  | [], f => .ok f
  | (k, v) :: es, f => do
    let key ← scalarText d k .key path
    if key = "init".toList then
      if f.init.isSome then throw ⟨path, .duplicate "init", m⟩
      let text ← scalarText d v .string (path ++ [segment k])
      symbolFields d m path es { f with init := some (String.ofList text) }
    else if key = "finalize".toList then
      if f.finalize.isSome then throw ⟨path, .duplicate "finalize", m⟩
      let text ← scalarText d v .string (path ++ [segment k])
      symbolFields d m path es { f with finalize := some (String.ofList text) }
    else symbolFields d m path es f

def symbolsOf (d : Document) (n : Node) (path : List Segment) : Except DocumentError Symbols := do
  let (m, es) ← entriesOf d n .symbols path
  let f ← symbolFields d m path es ⟨none, none⟩
  return ⟨f.init.getD Symbols.default.init, f.finalize.getD Symbols.default.finalize⟩

/-- The fields of the root as far as they have been met. -/
structure ConfigFields where
  library : Option Bytes
  symbols : Option Symbols
  deriving DecidableEq, Repr

def configFields (d : Document) (m : Mark) :
    List (Node × Node) → ConfigFields → Except DocumentError ConfigFields
  | [], f => .ok f
  | (k, v) :: es, f => do
    let key ← scalarText d k .key []
    if key = "library".toList then
      if f.library.isSome then throw ⟨[], .duplicate "library", m⟩
      let text ← scalarText d v .path [segment k]
      configFields d m es { f with library := some (Utf8.encode text) }
    else if key = "symbols".toList then
      if f.symbols.isSome then throw ⟨[], .duplicate "symbols", m⟩
      let symbols ← symbolsOf d v [segment k]
      configFields d m es { f with symbols := some symbols }
    else configFields d m es f

/-- The configuration of a document; missing fields have their defaults. -/
def ofDocument (d : Document) : Except DocumentError Config :=
  match d.root with
  | none => .ok .default
  | some root => do
    let (m, es) ← entriesOf d root .config []
    let f ← configFields d m es ⟨none, none⟩
    return ⟨f.library.getD defaultLibrary, f.symbols.getD .default⟩

end ScopedEngine.Config
