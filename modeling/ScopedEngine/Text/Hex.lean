/-
  ScopedEngine.Text.Hex — digits in base 16.
-/

namespace ScopedEngine.Text

/-- The value of a digit in base 16. -/
def hexValue? (c : Char) : Option Nat :=
  if '0' ≤ c && c ≤ '9' then some (c.toNat - 0x30)
  else if 'a' ≤ c && c ≤ 'f' then some (c.toNat - 0x61 + 10)
  else if 'A' ≤ c && c ≤ 'F' then some (c.toNat - 0x41 + 10)
  else none

/-- A digit in base 16, upper case. -/
def hexDigitUpper (n : Nat) : Char :=
  if n < 10 then Char.ofNat (0x30 + n) else Char.ofNat (0x41 + (n - 10))

/-- A number in base 16, lower case, without leading zeros. -/
def hex (n : Nat) : List Char := Nat.toDigits 16 n

/-- A number as an escape, `\u{…}`. -/
def numberEscape (n : Nat) : List Char := ['\\', 'u', '\x7b'] ++ hex n ++ ['\x7d']

end ScopedEngine.Text
