/-
  ScopedEngine.Log.Directive — one directive of a filter.

  `target[span{field=value}]=level`, every part of it optional: a level alone, a target with a
  level or alone, which means every level, and in brackets the name of a span, a field, or both.
  A directive that names a span or the value of a field is about spans only. Any other covers
  the records whose targets start with its own and that have its field.
-/

import ScopedEngine.Decimal.Binary64
import ScopedEngine.Log.Pattern
import ScopedEngine.Log.Record
import ScopedEngine.Text.Utf8

namespace ScopedEngine.Log

/-- A field by its name, perhaps with a pattern for its value. -/
structure Field where
  name : List Char
  value : Option (List Char)
  deriving DecidableEq, Repr

structure Directive where
  /-- The start of the targets it covers; `none` covers all. -/
  target : Option (List Char)
  span : Option (List Char)
  field : Option Field
  /-- Records up to this verbosity pass; 0 lets none through. -/
  limit : Nat
  deriving DecidableEq, Repr

/-! ## Levels -/

namespace Limit

def isDigit (c : Char) : Bool := '0' ≤ c && c ≤ '9'

/-- A number from 0 to 5. -/
def ofNumber? (s : List Char) : Option Nat :=
  let s := match s with
    | '+' :: s => s
    | s => s
  if s ≠ [] && s.all isDigit then
    let n := s.foldl (fun n c => n * 10 + (c.toNat - 0x30)) 0
    if n ≤ 5 then some n else none
  else none

def names : List (String × Nat) :=
  [("off", 0), ("error", 1), ("warn", 2), ("info", 3), ("debug", 4), ("trace", 5)]

/-- Every record passes. -/
def all : Nat := 5

/-- A level by its number or by its name in any case. -/
def read? (s : List Char) : Option Nat :=
  (ofNumber? s).or ((names.find? fun e => e.1.toList = s.map Char.toLower).map (·.2))

/-- A level after `=`; nothing stands for all of them. -/
def afterEquals? (s : List Char) : Option Nat := if s = [] then some all else read? s

end Limit

/-! ## Fields -/

namespace Field

/-- A number without a sign. -/
def isNumber (s : List Char) : Bool :=
  (Decimal.Binary64.unsigned? s).isSome
    || ["inf", "infinity", "nan"].contains (String.ofList (s.map Char.toLower))

/-- A value is a number or a pattern. Of the numbers only those with a plus are no patterns. -/
def isValue : List Char → Bool
  | '+' :: s => isNumber s || isPattern ('+' :: s)
  | s => isPattern s

/-- `name` or `name=value`; what a second `=` separates does not count. -/
def read? (s : List Char) : Option Field :=
  let name := s.takeWhile (· ≠ '=')
  match s, s.dropWhile (· ≠ '=') with
  | [], _ => none
  | _, _ :: rest =>
    let value := rest.takeWhile (· ≠ '=')
    if isValue value then some ⟨name, some value⟩ else none
  | _, [] => some ⟨name, none⟩

end Field

/-! ## Reading -/

namespace Directive

def startsTarget (c : Char) : Bool :=
  c = '-' || c = ':' || c = '_' || Text.isAlphanumeric c

/-- How many bytes a text has. -/
def size (s : List Char) : Nat := (Utf8.encode s).length

/-- The part of a piece from byte `i` to byte `j`, if it consists of whole characters. -/
def cut? (piece : List Char) (i j : Nat) : Option (List Char) :=
  Utf8.decode? (((Utf8.encode piece).take j).drop i)

/-- The level that stands from byte `i` on. -/
def limitAt? (piece : List Char) (i : Nat) : Option Nat :=
  (cut? piece i (size piece)).bind Limit.afterEquals?

/-- What may follow the closing bracket; `s` is what is left after byte `i`. -/
def ending? (piece : List Char) (d : Directive) (i : Nat) (s : List Char) : Option Directive :=
  match s with
  | [] => some d
  | '=' :: _ => (limitAt? piece (i + 1)).map fun l => { d with limit := l }
  | _ => none

/-- What may follow the opening bracket. -/
def bracketed? (piece : List Char) (target : Option (List Char)) (i : Nat) (s : List Char) :
    Option Directive :=
  let ends := fun (c : Char) => c = ']' || c = '\x7b'
  let j := i + size (s.takeWhile (!ends ·))
  match s.dropWhile (!ends ·) with
  | ']' :: s => do
    let span ← cut? piece i j
    ending? piece ⟨target, some span, none, Limit.all⟩ (j + 1) s
  | _ :: s => do
    let k := j + 1 + size (s.takeWhile (· ≠ '\x7d'))
    match s.dropWhile (· ≠ '\x7d') with
    | _ :: ']' :: s => do
      let span ← cut? piece i j
      let field ← (cut? piece (j + 1) k).bind Field.read?
      ending? piece ⟨target, if span = [] then none else some span, some field, Limit.all⟩ (k + 2) s
    | _ => none
  | [] => none

/-- A directive. The blanks around a piece are passed over to find the places of its parts, but
    these are then counted from the start of the piece, so a blank before it shifts them. -/
def read? (piece : List Char) : Option Directive :=
  let text := Text.trim piece
  let ends := fun (c : Char) => c = '=' || c = '['
  let i := size (text.takeWhile (!ends ·))
  match text, text.dropWhile (!ends ·) with
  | [], _ => none
  | '[' :: s, _ => bracketed? piece none 1 s
  | c :: _, rest =>
    if !startsTarget c then none
    else
      match rest with
      | '=' :: _ => do
        let target ← cut? piece 0 i
        let limit ← limitAt? piece (i + 1)
        return ⟨some target, none, none, limit⟩
      | _ :: s => do
        let target ← cut? piece 0 i
        bracketed? piece (some target) (i + 1) s
      | [] =>
        match Limit.read? piece with
        | some l => some ⟨none, none, none, l⟩
        | none => some ⟨some piece, none, none, Limit.all⟩

/-! ## Coverage -/

/-- About spans only. -/
def isForSpans (d : Directive) : Bool :=
  d.span.isSome || d.field.any fun f => f.value.isSome

def coversTarget (d : Directive) (target : List Char) : Bool :=
  match d.target with
  | none => true
  | some t => t.isPrefixOf target

def covers (d : Directive) (r : Record) : Bool :=
  !d.isForSpans && d.coversTarget r.target.name.toList
    && d.field.all fun f => Record.fieldNames.contains (String.ofList f.name)

/-- How much a directive names: the length of its target comes first, then its field. -/
def weight (d : Directive) : Nat :=
  2 * (match d.target with
    | none => 0
    | some t => t.length + 1) + if d.field.isSome then 1 else 0

end Directive

end ScopedEngine.Log
