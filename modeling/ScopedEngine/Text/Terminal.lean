/-
  ScopedEngine.Text.Terminal — texts that cannot steer the terminal they are written to.

  Escape, bell, backspace, form feed, delete and the controls of C1 are written by their
  numbers; everything else, line breaks included, stands as it is.
-/

import ScopedEngine.Text.Hex

namespace ScopedEngine.Text.Terminal

/-- The controls of ASCII that steer a terminal. -/
def steersAscii (c : Char) : Bool :=
  c = '\x1b' || c = '\x07' || c = '\x08' || c = '\x0c' || c = '\x7f'

/-- The controls of C1. -/
def isC1 (c : Char) : Bool := 0x80 ≤ c.toNat && c.toNat ≤ 0x9F

/-- One character as it is written. -/
def escape (c : Char) : List Char :=
  if steersAscii c then ['\\', 'x'] ++ hex (c.toNat / 16) ++ hex (c.toNat % 16)
  else if isC1 c then numberEscape c.toNat
  else [c]

def shown (s : List Char) : List Char := s.flatMap escape

end ScopedEngine.Text.Terminal
