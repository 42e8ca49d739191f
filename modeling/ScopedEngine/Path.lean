/-
  ScopedEngine.Path — paths as bytes, and the components they name.

  Two paths are the same when their components are: repeated and trailing slashes and inner `.`
  do not count, a leading `.` and every `..` do.
-/

import ScopedEngine.Text.Utf8

namespace ScopedEngine.Path

inductive Component where
  | root
  | current
  | name (bytes : Bytes)
  deriving DecidableEq, Hashable, Repr

def slash : UInt8 := 0x2F

def dot : Bytes := [0x2E]

def dotDot : Bytes := [0x2E, 0x2E]

/-- The pieces between slashes, empty ones too. -/
def pieces : Bytes → List Bytes
  | [] => [[]]
  | b :: s =>
    match pieces s with
    | [] => [[b]]
    | p :: ps => if b = slash then [] :: p :: ps else (b :: p) :: ps

def isAbsolute (p : Bytes) : Bool := p.head? = some slash

/-- The names among the pieces. -/
def names (p : Bytes) : List Component :=
  ((pieces p).filter fun s => s ≠ [] && s ≠ dot).map .name

def components (p : Bytes) : List Component :=
  if isAbsolute p then .root :: names p
  else if (pieces p).head? = some dot then .current :: names p
  else names p

/-- Whether the path is a bare name, which a loader searches in its own directories. -/
def isBare (p : Bytes) : Bool := !p.contains slash

end ScopedEngine.Path
