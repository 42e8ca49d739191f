/-
  ScopedEngine.Yaml.Reading — what a scalar means.

  A plain scalar without a tag is null, a boolean, an integer, a floating-point number or a
  text, by its spelling; a local tag changes nothing. The tags `bool`, `int`, `float` and `null`
  of YAML demand that reading of any scalar; every other tag, and quotes, make it a text.
-/

import ScopedEngine.Decimal.Shortest
import ScopedEngine.Text.Quoted
import ScopedEngine.Yaml.Node

namespace ScopedEngine.Yaml

open ScopedEngine.Decimal (Binary64)

inductive Reading where
  | null
  | bool (b : Bool)
  | int (n : Int)
  | float (f : Binary64)
  | text (s : List Char)
  deriving DecidableEq, Repr

/-- The readings that a tag can demand. -/
inductive Demand where
  | bool
  | int
  | float
  | null
  deriving DecidableEq, Repr

namespace Reading

def null? (s : List Char) : Bool :=
  s = "null".toList || s = "Null".toList || s = "NULL".toList || s = "~".toList

def bool? (s : List Char) : Option Bool :=
  if s = "true".toList || s = "True".toList || s = "TRUE".toList then some true
  else if s = "false".toList || s = "False".toList || s = "FALSE".toList then some false
  else none

/-- The value of digits in a base, at least one. -/
def digits? (base : Nat) (s : List Char) : Option Nat :=
  if s = [] then none
  else
    s.foldl (fun acc c => do
      let n ← acc
      let d ← Text.hexValue? c
      if d < base then some (n * base + d) else none) (some 0)

/-- A number of more than one digit that starts with a zero is a text. -/
def hasLeadingZero (s : List Char) : Bool :=
  match s with
  | '0' :: c :: s => (c :: s).all Binary64.isDigit
  | _ => false

/-- A number without a sign, in base 16, 8 or 2 with a mark, else in base 10. -/
def magnitude? (s : List Char) : Option Nat :=
  match s with
  | '0' :: 'x' :: s => digits? 16 s
  | '0' :: 'o' :: s => digits? 8 s
  | '0' :: 'b' :: s => digits? 2 s
  | s => if hasLeadingZero s then none else digits? 10 s

/-- `2 ^ 64`. -/
def limit64 : Nat := 0x10000000000000000

/-- `2 ^ 128`. -/
def limit128 : Nat := 0x100000000000000000000000000000000

/-- Integers reach from the least of 128 bits with a sign to the greatest without. -/
def int? (s : List Char) : Option Int :=
  match s with
  | '-' :: s => do
    let n ← magnitude? s
    if 2 * n ≤ limit128 then some (-(n : Int)) else none
  | '+' :: s => do
    let n ← magnitude? s
    if n < limit128 then some n else none
  | s => do
    let n ← magnitude? s
    if n < limit128 then some n else none

def stripPlus : List Char → List Char
  | '+' :: s => s
  | s => s

def startsWithSign : List Char → Bool
  | '+' :: _ => true
  | '-' :: _ => true
  | _ => false

def float? (s : List Char) : Option Binary64 :=
  let u := stripPlus s
  if s ≠ u && startsWithSign u then none
  else if u = ".inf".toList || u = ".Inf".toList || u = ".INF".toList then some (.infinity false)
  else if s = "-.inf".toList || s = "-.Inf".toList || s = "-.INF".toList then
    some (.infinity true)
  else if s = ".nan".toList || s = ".NaN".toList || s = ".NAN".toList then some .nan
  else Binary64.read? u

/-- The sign aside. -/
def unsigned : List Char → List Char
  | '+' :: s => s
  | '-' :: s => s
  | s => s

/-- The reading of a plain scalar by its spelling. -/
def ofSpelling (s : List Char) : Reading :=
  if s = [] || null? s then .null
  else
    match bool? s with
    | some b => .bool b
    | none =>
      match int? s with
      | some n => .int n
      | none =>
        match (if hasLeadingZero (unsigned s) then none else float? s) with
        | some f => .float f
        | none => .text s

end Reading

namespace Demand

/-- The demand of a tag. -/
def ofTag (tag : Bytes) : Option Demand :=
  if tag = Utf8.ofString "tag:yaml.org,2002:bool" then some .bool
  else if tag = Utf8.ofString "tag:yaml.org,2002:int" then some .int
  else if tag = Utf8.ofString "tag:yaml.org,2002:float" then some .float
  else if tag = Utf8.ofString "tag:yaml.org,2002:null" then some .null
  else none

def meet? (d : Demand) (s : List Char) : Option Reading :=
  match d with
  | .bool => (Reading.bool? s).map .bool
  | .int => (Reading.int? s).map .int
  | .float => (Reading.float? s).map .float
  | .null => if Reading.null? s then some .null else none

def name : Demand → String
  | .bool => "a boolean"
  | .int => "an integer"
  | .float => "a float"
  | .null => "null"

end Demand

/-- The reading of a scalar, or the demand of its tag that it does not meet. -/
def Scalar.reading (s : Scalar) : Except Demand Reading :=
  let spelled := if s.style = .plain then Reading.ofSpelling s.text else .text s.text
  match s.tag with
  | none => .ok spelled
  | some tag =>
    match Demand.ofTag tag with
    | some d =>
      match d.meet? s.text with
      | some r => .ok r
      | none => .error d
    | none => .ok (if tag.head? = some 0x21 then spelled else .text s.text)

/-- A reading as error texts name it. -/
def Reading.describe : Reading → List Char
  | .null => "unit value".toList
  | .bool b => "boolean `".toList ++ (if b then "true`" else "false`").toList
  | .int n =>
    "integer `".toList ++ (toString n).toList ++
      (if limit64 ≤ n then "` as u128" else if 2 * n < -limit64 then "` as i128" else "`").toList
  | .float f => "floating point `".toList ++ f.show ++ ['`']
  | .text s => "string ".toList ++ Text.Quoted.ofChars s

end ScopedEngine.Yaml
