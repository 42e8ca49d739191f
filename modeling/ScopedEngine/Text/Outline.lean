/-
  ScopedEngine.Text.Outline — nested values as text, on one line or one item a line.

  `compact` writes `[a, b]` and `Name { x: a, y: b }`; `pretty` gives every item its own line,
  four columns further in than its parent and closed by a comma. A record with `more` ends in
  `..`: it has parts that are not shown.
-/

namespace ScopedEngine.Text

inductive Outline where
  | leaf (text : List Char)
  | list (items : List Outline)
  | record (name : String) (fields : List (String × Outline)) (more : Bool)

namespace Outline

mutual

def compact : Outline → List Char
  | .leaf t => t
  | .list [] => "[]".toList
  | .list (x :: xs) => '[' :: compact x ++ compactItems xs ++ [']']
  | .record name [] more =>
    name.toList ++ (if more then " \x7b .. \x7d".toList else [])
  | .record name ((k, v) :: fs) more =>
    name.toList ++ " \x7b ".toList ++ k.toList ++ ": ".toList ++ compact v ++ compactFields fs
      ++ (if more then ", .. \x7d".toList else " \x7d".toList)

def compactItems : List Outline → List Char
  | [] => []
  | x :: xs => ", ".toList ++ compact x ++ compactItems xs

def compactFields : List (String × Outline) → List Char
  | [] => []
  | (k, v) :: fs => ", ".toList ++ k.toList ++ ": ".toList ++ compact v ++ compactFields fs

end

/-- The start of a line at a depth. -/
def margin (depth : Nat) : List Char := List.replicate (4 * depth) ' '

mutual

/-- The text whose first line continues the line it stands on, at `depth`. -/
def prettyAt (depth : Nat) : Outline → List Char
  | .leaf t => t
  | .list [] => "[]".toList
  | .list (x :: xs) =>
    "[\n".toList ++ prettyItems (depth + 1) (x :: xs) ++ margin depth ++ [']']
  | .record name [] more =>
    name.toList ++ (if more then " \x7b .. \x7d".toList else [])
  | .record name (f :: fs) more =>
    name.toList ++ " \x7b\n".toList ++ prettyFields (depth + 1) (f :: fs)
      ++ (if more then margin (depth + 1) ++ "..\n".toList else [])
      ++ margin depth ++ ['\x7d']

def prettyItems (depth : Nat) : List Outline → List Char
  | [] => []
  | x :: xs => margin depth ++ prettyAt depth x ++ ",\n".toList ++ prettyItems depth xs

def prettyFields (depth : Nat) : List (String × Outline) → List Char
  | [] => []
  | (k, v) :: fs =>
    margin depth ++ k.toList ++ ": ".toList ++ prettyAt depth v ++ ",\n".toList
      ++ prettyFields depth fs

end

def pretty (o : Outline) : List Char := prettyAt 0 o

def compactString (o : Outline) : String := String.ofList o.compact

def prettyString (o : Outline) : String := String.ofList o.pretty

end Outline

end ScopedEngine.Text
