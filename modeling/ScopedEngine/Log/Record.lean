/-
  ScopedEngine.Log.Record — what the program says about itself.
-/

import ScopedEngine.Text.Terminal

namespace ScopedEngine

inductive Level where
  | trace
  | debug
  | info
  | warn
  | error
  deriving DecidableEq, Repr

namespace Level

def name : Level → String
  | trace => "TRACE"
  | debug => "DEBUG"
  | info => "INFO"
  | warn => "WARN"
  | error => "ERROR"

/-- The greater, the more is said. -/
def verbosity : Level → Nat
  | error => 1
  | warn => 2
  | info => 3
  | debug => 4
  | trace => 5

end Level

/-- The parts of the program that speak. -/
inductive Target where
  | engine
  | session
  | logging
  deriving DecidableEq, Repr

def Target.name : Target → String
  | engine => "ket_engine::engine"
  | session => "ket_engine::session"
  | logging => "_ketpy::tracing_config"

structure Record where
  level : Level
  target : Target
  message : String
  deriving DecidableEq, Repr

namespace Record

/-- The names of the fields of every record: it has its message and no other. -/
def fieldNames : List String := ["message"]

/-- A record as one text for a terminal. -/
def line (r : Record) : String :=
  r.level.name ++ " " ++ r.target.name ++ ": "
    ++ String.ofList (Text.Terminal.shown r.message.toList)

/-- A record as it is written: a line break in its message starts another line. -/
def lines (r : Record) : List String := r.line.splitOn "\n"

end Record

end ScopedEngine
