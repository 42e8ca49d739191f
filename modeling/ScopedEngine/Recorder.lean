/-
  ScopedEngine.Recorder — an engine that remembers how it was called.

  It counts the calls, writes a letter for each of the first 256 into a buffer of 257 bytes, and
  copies the arguments of the last initializer call into a table of 64 rows of 256 bytes. Buffer
  and rows are reused without being cleared; each is read up to its first NUL.
-/

import ScopedEngine.Argv

namespace ScopedEngine

structure Recorder where
  initCalls : Nat
  freeCalls : Nat
  /-- The buffer of the letters. -/
  letters : Bytes
  /-- How many letters have been written. -/
  noted : Nat
  /-- The argument count of the last initializer call, -1 if there was none. -/
  lastArgc : Int
  nullTerminated : Bool
  rows : List Bytes
  lengths : List Nat
  deriving DecidableEq, Repr

/-- The functions that the engine exports, by what they do. -/
inductive EntryPoint where
  | init
  | finalize
  | reset
  /-- Reads the record and changes nothing. -/
  | inspect
  deriving DecidableEq, Repr

namespace Recorder

def maxArgs : Nat := 64

def rowLength : Nat := 256

def maxEvents : Nat := 256

/-- Nothing has been called. -/
def blank : Recorder where
  initCalls := 0
  freeCalls := 0
  letters := List.replicate (maxEvents + 1) 0
  noted := 0
  lastArgc := -1
  nullTerminated := false
  rows := List.replicate maxArgs (List.replicate rowLength 0)
  lengths := List.replicate maxArgs 0

/-- Writes a text and its NUL over the head of a row. -/
def overwrite (s row : Bytes) : Bytes := s ++ [0] ++ row.drop (s.length + 1)

/-- The letter of an initializer call, `I`. -/
def initLetter : UInt8 := 0x49

/-- The letter of a finalizer call, `F`. -/
def finalizeLetter : UInt8 := 0x46

/-- Writes a letter and its NUL behind the letters there are, as long as there is room for both. -/
def note (r : Recorder) (letter : UInt8) : Recorder :=
  if r.noted < maxEvents then
    { r with
      letters := r.letters.take r.noted ++ overwrite [letter] (r.letters.drop r.noted)
      noted := r.noted + 1 }
  else r

/-- The letters of the calls, as they are read. -/
def events (r : Recorder) : List Char := (Argv.cString r.letters).map Char.ofUInt8

/-- Nothing has been called since. Of the letters only the first is written over. -/
def reset (r : Recorder) : Recorder := { blank with letters := overwrite [] r.letters }

/-- What is copied of the arguments seen: the row of each, as far as the table goes, and its text,
    cut to leave room for a NUL. -/
def copies (argc : Nat) (seen : List (Option Bytes)) : List (Nat × Bytes) :=
  ((seen.take argc).take maxArgs).zipIdx.filterMap fun (s, i) =>
    s.map fun s => (i, s.take (rowLength - 1))

def copyRow (rows : List Bytes) (c : Nat × Bytes) : List Bytes := rows.modify c.1 (overwrite c.2)

def copyLength (lengths : List Nat) (c : Nat × Bytes) : List Nat :=
  lengths.modify c.1 fun _ => c.2.length

/-- An initializer call with `argc` arguments; `seen` are all slots, the last one included. -/
def recordInit (r : Recorder) (argc : Nat) (seen : List (Option Bytes)) : Recorder :=
  let r := { r with initCalls := r.initCalls + 1 }.note initLetter
  { r with
    lastArgc := argc
    nullTerminated := seen[argc]? = some none
    rows := (copies argc seen).foldl copyRow r.rows
    lengths := (copies argc seen).foldl copyLength r.lengths }

def recordFinalize (r : Recorder) : Recorder :=
  { r with freeCalls := r.freeCalls + 1 }.note finalizeLetter

/-- Calls an exported function as an initializer; what it does not take it ignores. -/
def callInit (r : Recorder) (f : EntryPoint) (v : Argv) : Recorder :=
  match f with
  | .init => r.recordInit v.argc v.seen
  | .finalize => r.recordFinalize
  | .reset => r.reset
  | .inspect => r

/-- Calls an exported function as a finalizer, without arguments. An initializer would read whatever
    stands where its own should be; the count of zero and the empty vector stand in for that and
    are not to be relied on. -/
def callFinalize (r : Recorder) (f : EntryPoint) : Recorder :=
  match f with
  | .init => r.recordInit 0 []
  | .finalize => r.recordFinalize
  | .reset => r.reset
  | .inspect => r

def inRange (r : Recorder) (i : Int) : Bool := 0 ≤ i && i < r.lastArgc && i < maxArgs

/-- An argument of the last initializer call; `none` outside of it and of the table. -/
def lastArg? (r : Recorder) (i : Int) : Option Bytes :=
  if r.inRange i then some (Argv.cString (r.rows[i.toNat]?.getD [])) else none

def lastArgLength (r : Recorder) (i : Int) : Nat :=
  if r.inRange i then r.lengths[i.toNat]?.getD 0 else 0

/-- The exported names. -/
def exports : List (String × EntryPoint) :=
  [("ket_init_new", .init), ("ket_begin", .init),
   ("ket_init_free", .finalize), ("ket_end", .finalize),
   ("mock_ket_reset", .reset),
   ("mock_ket_init_calls", .inspect), ("mock_ket_free_calls", .inspect),
   ("mock_ket_events", .inspect), ("mock_ket_last_argc", .inspect),
   ("mock_ket_last_argv_null_terminated", .inspect), ("mock_ket_last_arg", .inspect),
   ("mock_ket_last_arg_len", .inspect)]

end Recorder

end ScopedEngine
