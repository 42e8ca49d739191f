/-
  ScopedEngine.Files — a tree of directories and files, and the ways in which a path fails.

  A path is followed name by name from the root or from the working directory; `..` leads back
  to the directory above. There are no links. A name that leads through a file, or a slash after
  one, fails.
-/

import ScopedEngine.Path

namespace ScopedEngine

/-- What a directory holds. An image is a shared library; `shown` is how the system names it. -/
inductive Entry where
  | directory (entries : List (Bytes × Entry))
  | file (contents : Bytes)
  | image (shown : String)
  deriving Repr

inductive PathFault where
  | missing
  | notDirectory
  | tooLong
  deriving DecidableEq, Repr

inductive IoFault where
  | path (f : PathFault)
  | isDirectory
  | nulInName
  | notText
  deriving DecidableEq, Repr

namespace PathFault

def text : PathFault → String
  | .missing => "No such file or directory"
  | .notDirectory => "Not a directory"
  | .tooLong => "File name too long"

def number : PathFault → Nat
  | .missing => 2
  | .notDirectory => 20
  | .tooLong => 36

end PathFault

namespace IoFault

def osText (text : String) (number : Nat) : String :=
  text ++ " (os error " ++ toString number ++ ")"

def message : IoFault → String
  | .path f => osText f.text f.number
  | .isDirectory => osText "Is a directory" 21
  | .nulInName => "file name contained an unexpected NUL byte"
  | .notText => "stream did not contain valid UTF-8"

end IoFault

structure Files where
  root : Entry
  /-- The names that lead to the working directory. -/
  workingDirectory : List Bytes
  deriving Repr

namespace Files

def nameLimit : Nat := 255

def pathLimit : Nat := 4096

/-- One name further. `trail` holds the directories above, innermost first. -/
def step (trail : List Entry) (here : Entry) (name : Bytes) :
    Except PathFault (List Entry × Entry) :=
  match here with
  | .directory entries =>
    if name = [] || name = Path.dot then .ok (trail, here)
    else if name = Path.dotDot then
      match trail with
      | [] => .ok ([], here)
      | above :: trail => .ok (trail, above)
    else if nameLimit < name.length then .error .tooLong
    else
      match entries.lookup name with
      | some e => .ok (here :: trail, e)
      | none => .error .missing
  | _ => .error .notDirectory

def walk : List Bytes → List Entry → Entry → Except PathFault (List Entry × Entry)
  | [], trail, here => .ok (trail, here)
  | name :: names, trail, here => do
    let (trail, here) ← step trail here name
    walk names trail here

/-- What a path leads to. -/
def find (f : Files) (path : Bytes) : Except PathFault Entry :=
  if path = [] then .error .missing
  else if pathLimit ≤ path.length then .error .tooLong
  else do
    let (trail, here) ←
      if Path.isAbsolute path then pure ([], f.root) else walk f.workingDirectory [] f.root
    let (_, e) ← walk (Path.pieces path) trail here
    return e

/-- The contents of a file. An image is no text. -/
def read (f : Files) (path : Bytes) : Except IoFault (List Char) :=
  if path.contains 0 then .error .nulInName
  else
    match f.find path with
    | .error e => .error (.path e)
    | .ok (.directory _) => .error .isDirectory
    | .ok (.image _) => .error .notText
    | .ok (.file contents) =>
      match Utf8.decode? contents with
      | some s => .ok s
      | none => .error .notText

end Files

end ScopedEngine
