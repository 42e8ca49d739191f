/-
  ScopedEngine.Text.Blank — the blanks of all scripts, and texts without the blanks around them.
-/

import ScopedEngine.Text.Ranges

namespace ScopedEngine.Text

/-- The ranges of White_Space. -/
def blanks : Ranges :=
  [(0x9, 0xD), (0x20, 0x20), (0x85, 0x85), (0xA0, 0xA0), (0x1680, 0x1680), (0x2000, 0x200A),
   (0x2028, 0x2029), (0x202F, 0x202F), (0x205F, 0x205F), (0x3000, 0x3000)]

def isBlank (c : Char) : Bool := blanks.has c.toNat

/-- A text without the blanks at its start and at its end. -/
def trim (s : List Char) : List Char :=
  (s.dropWhile isBlank).reverse.dropWhile isBlank |>.reverse

end ScopedEngine.Text
