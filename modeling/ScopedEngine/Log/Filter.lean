/-
  ScopedEngine.Log.Filter — which records are written.

  A filter is a list of directives, separated by commas. Of those that cover a record the one
  that names most decides, of equal ones the last; without one the record is not written. A
  filter without directives lets errors through.
-/

import ScopedEngine.Config.Overrides
import ScopedEngine.Log.Directive

namespace ScopedEngine.Log

abbrev Filter := List Directive

namespace Filter

/-- The pieces between commas. -/
def pieces : List Char → List (List Char)
  | [] => [[]]
  | c :: s =>
    match pieces s with
    | [] => [[c]]
    | p :: ps => if c = ',' then [] :: p :: ps else (c :: p) :: ps

/-- All records up to a verbosity. -/
def upTo (limit : Nat) : Filter := [⟨none, none, none, limit⟩]

def read? (s : List Char) : Option Filter :=
  match ((pieces s).filter (· ≠ [])).mapM Directive.read? with
  | some [] => some (upTo Level.error.verbosity)
  | r => r

/-- Warnings and errors. -/
def default : Filter := upTo Level.warn.verbosity

/-- The directive that decides on a record. -/
def decisive? (f : Filter) (r : Record) : Option Directive :=
  f.foldl (fun best d =>
    if !d.covers r then best
    else
      match best with
      | some b => if b.weight ≤ d.weight then some d else some b
      | none => some d) none

def lets (f : Filter) (r : Record) : Bool :=
  match f.decisive? r with
  | some d => r.level.verbosity ≤ d.limit
  | none => false

def primaryVariable : String := "KET_LOG"

def secondaryVariable : String := "RUST_LOG"

/-- The filter that a variable holds, if it is set to text that is one. -/
def ofVariable (look : Config.Lookup) (name : String) : Option Filter :=
  (look name).bind fun s => read? s.toList

/-- The filter of a process. -/
def ofLookup (look : Config.Lookup) : Filter :=
  ((ofVariable look primaryVariable).or (ofVariable look secondaryVariable)).getD default

end Filter

end ScopedEngine.Log
