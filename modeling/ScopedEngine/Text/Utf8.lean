/-
  ScopedEngine.Text.Utf8 — byte strings and their reading as UTF-8.

  A byte string splits uniquely into characters and maximal broken parts (`parts`): a broken
  part is the longest run of bytes that starts like a character and cannot be finished, or one
  byte that starts none. `decode?` refuses broken parts, `lossy` writes one U+FFFD for each.
-/

namespace ScopedEngine

/-- Arguments, paths and file contents are bytes; text is read out of them. -/
abbrev Bytes := List UInt8

namespace Utf8

inductive Part where
  | char (c : Char)
  | broken (bytes : Bytes)
  deriving DecidableEq, Repr

/-- The bytes of a character. -/
def encodeChar (c : Char) : Bytes := String.utf8EncodeChar c

/-- The bytes of a text. -/
def encode (s : List Char) : Bytes := s.flatMap encodeChar

/-- What may follow a leading byte: the bounds of the second byte, and how many bytes come
    after that one. -/
structure Tail where
  lo : UInt8
  hi : UInt8
  more : Nat
  deriving DecidableEq, Repr

/-- Overlong forms, surrogates and values above U+10FFFF are excluded by the bounds of the
    second byte. -/
def tailOf (a : UInt8) : Option Tail :=
  if a < 0xC2 then none
  else if a ≤ 0xDF then some ⟨0x80, 0xBF, 0⟩
  else if a = 0xE0 then some ⟨0xA0, 0xBF, 1⟩
  else if a = 0xED then some ⟨0x80, 0x9F, 1⟩
  else if a ≤ 0xEF then some ⟨0x80, 0xBF, 1⟩
  else if a = 0xF0 then some ⟨0x90, 0xBF, 2⟩
  else if a ≤ 0xF3 then some ⟨0x80, 0xBF, 2⟩
  else if a = 0xF4 then some ⟨0x80, 0x8F, 2⟩
  else none

def isTail (b : UInt8) : Bool := 0x80 ≤ b && b ≤ 0xBF

def char2 (a b : UInt8) : Char := Char.ofNat ((a.toNat - 0xC0) * 0x40 + (b.toNat - 0x80))

def char3 (a b c : UInt8) : Char :=
  Char.ofNat ((a.toNat - 0xE0) * 0x1000 + (b.toNat - 0x80) * 0x40 + (c.toNat - 0x80))

def char4 (a b c d : UInt8) : Char :=
  Char.ofNat ((a.toNat - 0xF0) * 0x40000 + (b.toNat - 0x80) * 0x1000 + (c.toNat - 0x80) * 0x40
    + (d.toNat - 0x80))

/-- The characters and the maximal broken parts, in order. -/
def parts : Bytes → List Part
  | [] => []
  | a :: s =>
    if a < 0x80 then .char (Char.ofNat a.toNat) :: parts s
    else
      match tailOf a with
      | none => .broken [a] :: parts s
      | some t =>
        match s with
        | [] => [.broken [a]]
        | b :: s₁ =>
          if !(t.lo ≤ b && b ≤ t.hi) then .broken [a] :: parts (b :: s₁)
          else if t.more = 0 then .char (char2 a b) :: parts s₁
          else
            match s₁ with
            | [] => [.broken [a, b]]
            | c :: s₂ =>
              if !isTail c then .broken [a, b] :: parts (c :: s₂)
              else if t.more = 1 then .char (char3 a b c) :: parts s₂
              else
                match s₂ with
                | [] => [.broken [a, b, c]]
                | d :: s₃ =>
                  if !isTail d then .broken [a, b, c] :: parts (d :: s₃)
                  else .char (char4 a b c d) :: parts s₃

def Part.char? : Part → Option Char
  | .char c => some c
  | .broken _ => none

/-- The text of a well-formed byte string. -/
def decode? (b : Bytes) : Option (List Char) := (parts b).mapM Part.char?

def Part.shown : Part → Char
  | .char c => c
  | .broken _ => '\ufffd'

/-- The text with one U+FFFD for each broken part. -/
def lossy (b : Bytes) : List Char := (parts b).map Part.shown

/-- `lossy` as a string. -/
def lossyString (b : Bytes) : String := String.ofList (lossy b)

/-- The bytes of a string. -/
def ofString (s : String) : Bytes := encode s.toList

/-- The string of a well-formed byte string. -/
def toString? (b : Bytes) : Option String := (decode? b).map String.ofList

/-- The order of strings by their bytes. -/
def inOrder (a b : String) : Bool :=
  let less := fun (x y : UInt8) => decide (x < y)
  !List.lex (ofString b) (ofString a) less

end Utf8

end ScopedEngine
