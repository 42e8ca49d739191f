/-
  ScopedEngine.Host.Logging — who hears the log of a host process.

  At import a filter is chosen from the variables and its lines go to standard error. A process
  that already listens for itself keeps listening: it hears everything, first of all that it is
  left in place, and nothing is written.
-/

import ScopedEngine.Host.Script
import ScopedEngine.Log.Filter

namespace ScopedEngine.Host

open Log

/-- The record made when a listener is already in place. -/
def keeping : Record := ⟨.debug, .logging, "global tracing subscriber already set; keeping it"⟩

structure Heard where
  written : List Record
  byHost : List Record
  deriving DecidableEq, Repr

/-- What is heard of a log, when the host `listens` itself and when it does not. -/
def heard (listens : Bool) (look : Config.Lookup) (log : List Record) : Heard :=
  if listens then ⟨[], keeping :: log⟩
  else ⟨log.filter (Filter.ofLookup look).lets, []⟩

/-- A whole script in a process with these variables: the reports, and what is heard of its log,
    to the release of the last object. -/
def runHeard (linker : Linker) (listens : Bool) (env : Config.Environment) (steps : List Step) :
    List Report × Heard :=
  let (reports, p) := runAll linker env steps
  (reports, heard listens env.lookup p.log)

end ScopedEngine.Host
