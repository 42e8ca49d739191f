/-
  ScopedEngine.Yaml.Token.Tag — tags, anchors and directives.

  A tag is `!<uri>`, `!handle!uri`, `!uri` or `!` alone. Its URI is read as bytes, with `%` and
  two digits for one byte; such bytes form whole UTF-8 characters, and a NUL among them ends
  the tag.
-/

import ScopedEngine.Text.Hex
import ScopedEngine.Text.Utf8
import ScopedEngine.Yaml.Mark
import ScopedEngine.Yaml.Token.Block

namespace ScopedEngine.Yaml

structure Tag where
  handle : List Char
  suffix : Bytes
  deriving DecidableEq, Repr

/-- The characters of a URI; `verbatim` ones may also be flow indicators. -/
def isUriChar (verbatim : Bool) (c : Char) : Bool :=
  isNameChar c || ";/?:@&=+$.%!~*'()".toList.contains c || (verbatim && ",[]".toList.contains c)

/-- How many bytes a character has that starts with this one; 0 if none does. -/
def sequenceLength (octet : Nat) : Nat :=
  if octet < 0x80 then 1
  else if 0xC0 ≤ octet && octet < 0xE0 then 2
  else if 0xE0 ≤ octet && octet < 0xF0 then 3
  else if 0xF0 ≤ octet && octet < 0xF8 then 4
  else 0

/-- The bytes of a URI (last first); `owed` of them are still due to the last character. -/
def uri (verbatim : Bool) :
    Nat → List Char → Mark → List UInt8 → Except SyntaxError (List UInt8 × Cursor)
  | owed, [], m, acc => if owed = 0 then .ok (acc, ⟨[], m⟩) else .error ⟨.badTag, m⟩
  | owed, c :: cs, m, acc =>
    if c = '%' then
      match cs with
      | a :: b :: cs =>
        match Text.hexValue? a, Text.hexValue? b with
        | some x, some y =>
          let octet := x * 16 + y
          if owed = 0 then
            match sequenceLength octet with
            | 0 => .error ⟨.badTag, m⟩
            | n + 1 => uri verbatim n cs (m.advance 3) (octet.toUInt8 :: acc)
          else if 0x80 ≤ octet && octet < 0xC0 then
            uri verbatim (owed - 1) cs (m.advance 3) (octet.toUInt8 :: acc)
          else .error ⟨.badTag, m⟩
        | _, _ => .error ⟨.badTag, m⟩
      | _ => .error ⟨.badTag, m⟩
    else if owed ≠ 0 then .error ⟨.badTag, m⟩
    else if isUriChar verbatim c then
      uri verbatim 0 cs (m.next c) ((Utf8.encodeChar c).reverse ++ acc)
    else .ok (acc, ⟨c :: cs, m⟩)

/-- The bytes before the first NUL. -/
def beforeNul (b : Bytes) : Bytes := b.takeWhile (· ≠ 0)

/-- A handle: `!`, a name, and `!` if it stands there. -/
def tagHandle (cs : List Char) (m : Mark) : List Char × Cursor :=
  let name := cs.takeWhile isNameChar
  match cs.dropWhile isNameChar with
  | '!' :: rest => ('!' :: name ++ ['!'], ⟨rest, m.advance (name.length + 2)⟩)
  | rest => ('!' :: name, ⟨rest, m.advance (name.length + 1)⟩)

def isNamedHandle (h : List Char) : Bool := 1 < h.length && h.getLast? = some '!'

/-- The tag after its `!`, with what is left. -/
def tagBody (cs : List Char) (m : Mark) : Except SyntaxError (Tag × Cursor) :=
  match cs with
  | '<' :: cs => do
    let (u, cur) ← uri true 0 cs (m.advance 2) []
    if u = [] then throw ⟨.badTag, m⟩
    match cur.rest with
    | '>' :: rest => return (⟨[], beforeNul u.reverse⟩, ⟨rest, cur.mark.next '>'⟩)
    | _ => throw ⟨.badTag, m⟩
  | cs => do
    let (handle, cur) := tagHandle cs m
    let (u, cur) ← uri false 0 cur.rest cur.mark []
    if isNamedHandle handle then
      if u = [] then throw ⟨.badTag, m⟩
      return (⟨handle, beforeNul u.reverse⟩, cur)
    else
      let suffix := beforeNul (Utf8.encode (handle.drop 1) ++ u.reverse)
      if suffix = [] then return (⟨[], [0x21]⟩, cur) else return (⟨['!'], suffix⟩, cur)

/-- A tag, from after its `!` at `m`. In a flow collection a comma may follow it. -/
def tag (flow : Bool) (cs : List Char) (m : Mark) : Except SyntaxError (Tag × Cursor) := do
  let (t, cur) ← tagBody cs m
  if (flow && cur.rest.head? = some ',') || atWordEnd cur.rest then return (t, cur)
  else throw ⟨.badTag, m⟩

/-- What may stand after an anchor or an alias. -/
def atNameEnd (s : List Char) : Bool :=
  atWordEnd s || match s with
    | c :: _ => "?:,]\x7d%@`".toList.contains c
    | [] => true

/-- The name of an anchor or an alias, from after its indicator at `m`. -/
def anchorName (cs : List Char) (m : Mark) : Except SyntaxError (List Char × Cursor) :=
  let name := cs.takeWhile isNameChar
  let rest := cs.dropWhile isNameChar
  if name ≠ [] && atNameEnd rest then .ok (name, ⟨rest, m.advance (name.length + 1)⟩)
  else .error ⟨.badAnchor, m⟩

inductive Directive where
  | version (major minor : Nat)
  | tag (handle : List Char) (target : Bytes)
  deriving DecidableEq, Repr

/-- At most nine digits, at least one. -/
def versionNumber? (cs : List Char) : Option (Nat × List Char) :=
  let isDigit := fun (c : Char) => '0' ≤ c && c ≤ '9'
  let ds := cs.takeWhile isDigit
  if ds = [] || 9 < ds.length then none
  else some (ds.foldl (fun n c => n * 10 + (c.toNat - 0x30)) 0, cs.dropWhile isDigit)

/-- The numbers of `%YAML`, with what is left. -/
def versionDirective? (cs : List Char) : Option (Directive × List Char) := do
  let (major, cs) ← versionNumber? (cs.dropWhile isBlank)
  match cs with
  | '.' :: cs =>
    let (minor, cs) ← versionNumber? cs
    return (.version major minor, cs)
  | _ => none

/-- The handle and the prefix of `%TAG`, with what is left. -/
def tagDirective (cs : List Char) (m : Mark) : Except SyntaxError (Directive × List Char) :=
  match cs.dropWhile isBlank with
  | '!' :: cs => do
    let (handle, cur) := tagHandle cs m
    if !isNamedHandle handle && handle ≠ ['!'] then throw ⟨.badDirective, m⟩
    match cur.rest with
    | c :: _ =>
      if !isBlank c then throw ⟨.badDirective, m⟩
      let (u, cur) ← uri true 0 (cur.rest.dropWhile isBlank) m []
      if u = [] || !atWordEnd cur.rest then throw ⟨.badDirective, m⟩
      return (.tag handle (beforeNul u.reverse), cur.rest)
    | [] => throw ⟨.badDirective, m⟩
  | _ => throw ⟨.badDirective, m⟩

/-- A directive, from after its `%` at `m`, with the rest of its line. -/
def directive (cs : List Char) (m : Mark) : Except SyntaxError (Directive × Cursor) := do
  let name := cs.takeWhile isNameChar
  let rest := cs.dropWhile isNameChar
  if name = [] || !atWordEnd rest then throw ⟨.badDirective, m⟩
  let (d, rest) ←
    if name = "YAML".toList then
      match versionDirective? rest with
      | some r => pure r
      | none => throw ⟨.badDirective, m⟩
    else if name = "TAG".toList then tagDirective rest m
    else throw ⟨.badDirective, m⟩
  match restOfLine? rest m with
  | some cur => return (d, cur)
  | none => throw ⟨.badDirective, m⟩

end ScopedEngine.Yaml
