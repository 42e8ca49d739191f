/-
  ScopedEngine.Argv — an argument vector as a C program gets it.

  Every argument is copied into a buffer of its own that ends in one NUL; the slots point to the
  buffers in order, and one more slot is null. The program may exchange slots, set them to null
  and write into the buffers before their last byte. The owner reads the buffers (`get`,
  `toList`), the program what stands before the first NUL behind each slot (`seen`).
-/

import ScopedEngine.Text.Outline
import ScopedEngine.Text.Quoted

namespace ScopedEngine

structure Argv where
  /-- The buffers with their last byte, a NUL. -/
  buffers : List Bytes
  /-- The buffer each slot points to; `none` is null. -/
  slots : List (Option Nat)
  /-- The count that the program is told. -/
  argc : Nat
  deriving DecidableEq, Repr

namespace Argv

def ofList (args : List Bytes) : Argv where
  buffers := args.map (· ++ [0])
  slots := (List.range args.length).map some ++ [none]
  argc := args.length

/-- The most arguments that a C `int` counts. -/
def maxArgc : Nat := 0x7fffffff

def tooMany (n : Nat) : String :=
  "argument vector has " ++ toString n ++ " entries, more than a C int can count"

/-- The vector of a list of arguments, unless there are too many to count. -/
def marshal (args : List Bytes) : Except String Argv :=
  if args.length ≤ maxArgc then .ok (ofList args) else .error (tooMany args.length)

def length (v : Argv) : Nat := v.buffers.length

def isEmpty (v : Argv) : Bool := v.buffers.isEmpty

/-- The arguments in their first order, as they are now. -/
def toList (v : Argv) : List Bytes := v.buffers.map List.dropLast

@[simp] theorem toList_ofList (args : List Bytes) : (ofList args).toList = args := by
  simp [toList, ofList, Function.comp_def]

def get? (v : Argv) (i : Nat) : Option Bytes := (v.buffers[i]?).map List.dropLast

theorem get?_eq (v : Argv) (i : Nat) : v.get? i = v.toList[i]? := by
  simp [get?, toList]

def getWithNul? (v : Argv) (i : Nat) : Option Bytes := v.buffers[i]?

/-- A C string reaches to the first NUL. -/
def cString (b : Bytes) : Bytes := b.takeWhile (· ≠ 0)

/-- What the program sees through a slot; `none` is a null pointer. -/
def seenThrough (v : Argv) (slot : Option Nat) : Option Bytes :=
  slot.map fun k => cString (v.buffers[k]?.getD [])

/-- What the program sees through all slots. -/
def seen (v : Argv) : List (Option Bytes) := v.slots.map v.seenThrough

/-- What the program may do to the slots and, through them, to the buffers. -/
inductive Action where
  | swap (i j : Nat)
  | null (i : Nat)
  | write (i offset : Nat) (byte : UInt8)
  deriving DecidableEq, Repr

/-- The vector after an action; `none` for a slot that is not there, for a null slot written
    through, and for a place at or behind the last byte of the buffer. -/
def step? (v : Argv) : Action → Option Argv
  | .swap i j =>
    match v.slots[i]?, v.slots[j]? with
    | some a, some b => some { v with slots := (v.slots.set i b).set j a }
    | _, _ => none
  | .null i => if i < v.slots.length then some { v with slots := v.slots.set i none } else none
  | .write i offset byte =>
    match v.slots[i]? with
    | some (some k) =>
      match v.buffers[k]? with
      | some b =>
        if offset + 1 < b.length then some { v with buffers := v.buffers.set k (b.set offset byte) }
        else none
      | none => none
    | _ => none

/-- The vector after an action of a caller who writes through the first `argc` slots only. -/
def act? (v : Argv) : Action → Option Argv
  | .write i offset byte => if i < v.argc then v.step? (.write i offset byte) else none
  | a => v.step? a

/-- What such a caller does has the same result. Only writes through the last slot, or behind it,
    are kept from it. -/
theorem act?_eq_some {v w : Argv} {a : Action} :
    v.act? a = some w ↔
      v.step? a = some w ∧ ∀ i offset byte, a = .write i offset byte → i < v.argc := by
  cases a with
  | swap i j => simp [act?]
  | null i => simp [act?]
  | write i offset byte =>
    by_cases hi : i < v.argc
    · simp [act?, hi]
    · simp [act?, hi]

/-- The vector after an action; one that cannot be done changes nothing. -/
def step (v : Argv) (a : Action) : Argv := (v.step? a).getD v

/-- Actions in order. -/
def actAll (v : Argv) (actions : List Action) : Argv := actions.foldl step v

open Text in
/-- The arguments as text, lossily. -/
def outline (v : Argv) : Outline :=
  .list (v.toList.map fun b => .leaf (Quoted.ofChars (Utf8.lossy b)))

end Argv

end ScopedEngine
