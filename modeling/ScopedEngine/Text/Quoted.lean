/-
  ScopedEngine.Text.Quoted — texts and byte strings between double quotes.

  A quote and a backslash take a backslash before them, the four common controls their short
  names, every other character that is not printable or that extends the one before it its
  number, `\u{…}`. A byte that belongs to no character is written `\xFF`.
-/

import ScopedEngine.Text.Hex
import ScopedEngine.Text.Printable
import ScopedEngine.Text.Utf8

namespace ScopedEngine.Text.Quoted

/-- One character as it stands inside the quotes. -/
def escape (c : Char) : List Char :=
  if c = '"' then ['\\', '"']
  else if c = '\\' then ['\\', '\\']
  else if c = '\n' then ['\\', 'n']
  else if c = '\r' then ['\\', 'r']
  else if c = '\t' then ['\\', 't']
  else if c = '\x00' then ['\\', '0']
  else if isExtender c || !isPrintable c then numberEscape c.toNat
  else [c]

/-- A byte that belongs to no character. -/
def escapeByte (b : UInt8) : List Char :=
  ['\\', 'x', hexDigitUpper (b.toNat / 16), hexDigitUpper (b.toNat % 16)]

def ofChars (s : List Char) : List Char := '"' :: s.flatMap escape ++ ['"']

def ofString (s : String) : List Char := ofChars s.toList

def escapePart : Utf8.Part → List Char
  | .char c => escape c
  | .broken bytes => bytes.flatMap escapeByte

def ofBytes (b : Bytes) : List Char := '"' :: (Utf8.parts b).flatMap escapePart ++ ['"']

end ScopedEngine.Text.Quoted
