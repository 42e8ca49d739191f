/-
  ScopedEngine.Config.Json — a configuration as one line of JSON.

  A quote and a backslash take a backslash, the controls below U+0020 their short names or
  `\u00xx`; everything else stands as it is. A path that is not text has no JSON form.
-/

import ScopedEngine.Config.Basic

namespace ScopedEngine.Config.Json

/-- A digit in base 16, lower case. -/
def hexDigit (n : Nat) : Char :=
  if n < 10 then Char.ofNat (0x30 + n) else Char.ofNat (0x61 + (n - 10))

def escape (c : Char) : List Char :=
  if c = '"' then ['\\', '"']
  else if c = '\\' then ['\\', '\\']
  else if c = '\x08' then ['\\', 'b']
  else if c = '\x0c' then ['\\', 'f']
  else if c = '\n' then ['\\', 'n']
  else if c = '\r' then ['\\', 'r']
  else if c = '\t' then ['\\', 't']
  else if c.toNat < 0x20 then
    ['\\', 'u', '0', '0', hexDigit (c.toNat / 16), hexDigit (c.toNat % 16)]
  else [c]

def string (s : List Char) : List Char := '"' :: s.flatMap escape ++ ['"']

/-- An object of named values, in order. -/
def object (fields : List (String × List Char)) : List Char :=
  ['\x7b'] ++ List.intercalate [','] (fields.map fun f => string f.1.toList ++ ':' :: f.2)
    ++ ['\x7d']

end Json

/-- The JSON form. -/
def json? (c : Config) : Option (List Char) :=
  (Utf8.decode? c.library).map fun library =>
    Json.object [
      ("library", Json.string library),
      ("symbols", Json.object [
        ("init", Json.string c.symbols.init.toList),
        ("finalize", Json.string c.symbols.finalize.toList)])]

end ScopedEngine.Config
