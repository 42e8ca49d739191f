/-
  ScopedEngine.Host.Value — the values that a host language passes in, and what is taken of them.

  A host text may hold loose bytes, left over from reading bytes that are no text. An argument
  list is a sequence, other than a text, of texts without loose bytes; a library is a text or
  nothing, and its loose bytes become bytes of the path again.
-/

import ScopedEngine.Text.Utf8

namespace ScopedEngine.Host

/-- A character of a host text. -/
inductive TextUnit where
  | char (c : Char)
  | loose (byte : UInt8)
  deriving DecidableEq, Repr

abbrev HostText := List TextUnit

namespace HostText

def ofChars (s : List Char) : HostText := s.map .char

/-- Reads bytes as text and keeps those that belong to no character. -/
def ofBytes (b : Bytes) : HostText :=
  (Utf8.parts b).flatMap fun
    | .char c => [.char c]
    | .broken bytes => bytes.map .loose

/-- The bytes of a path. -/
def toPath (t : HostText) : Bytes :=
  t.flatMap fun
    | .char c => Utf8.encodeChar c
    | .loose b => [b]

end HostText

inductive Value where
  | none
  | bool (b : Bool)
  | number
  | text (t : HostText)
  | bytes (b : Bytes)
  | list (items : List Value)
  | tuple (items : List Value)
  deriving Inhabited, Repr

/-- Loose bytes in a text that is to be encoded: the first run of them. -/
structure LooseRun where
  first : Nat
  last : Nat
  byte : UInt8
  deriving DecidableEq, Repr

inductive ArgumentFault where
  | wrongType
  | loose (run : LooseRun)
  deriving DecidableEq, Repr

namespace LooseRun

/-- A loose byte as the surrogate that stands for it. -/
def surrogate (b : UInt8) : String := "\\udc" ++ String.ofList (Nat.toDigits 16 b.toNat)

def message (r : LooseRun) : String :=
  if r.first = r.last then
    "'utf-8' codec can't encode character '" ++ surrogate r.byte ++ "' in position "
      ++ toString r.first ++ ": surrogates not allowed"
  else
    "'utf-8' codec can't encode characters in position " ++ toString r.first ++ "-"
      ++ toString r.last ++ ": surrogates not allowed"

end LooseRun

namespace HostText

def looseCount : HostText → Nat
  | .loose _ :: t => looseCount t + 1
  | _ => 0

/-- The bytes of a text from place `i` on, if none of them is loose. -/
def encodeFrom : Nat → HostText → Except ArgumentFault Bytes
  | _, [] => .ok []
  | i, .char c :: t => do return Utf8.encodeChar c ++ (← encodeFrom (i + 1) t)
  | i, .loose b :: t => .error (.loose ⟨i, i + looseCount t, b⟩)

def encode? (t : HostText) : Except ArgumentFault Bytes := encodeFrom 0 t

end HostText

namespace Value

def argument : Value → Except ArgumentFault Bytes
  | .text t => t.encode?
  | _ => .error .wrongType

/-- The argument list of a value; a byte string is a sequence of numbers. -/
def arguments : Value → Except ArgumentFault (List Bytes)
  | .list items => items.mapM argument
  | .tuple items => items.mapM argument
  | .bytes [] => .ok []
  | _ => .error .wrongType

/-- The library path of a value, if it names one. -/
def library : Value → Except ArgumentFault (Option Bytes)
  | .none => .ok Option.none
  | .text t => .ok (some t.toPath)
  | _ => .error .wrongType

end Value

end ScopedEngine.Host
