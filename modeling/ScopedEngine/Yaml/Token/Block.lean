/-
  ScopedEngine.Yaml.Token.Block — literal and folded scalars.

  The header names the treatment of the end (`Chomp`) and, optionally, the indentation; without
  it the widest of the leading blank lines and the first other line decides. A folded scalar
  joins two lines that both start with a character by a space.
-/

import ScopedEngine.Yaml.Mark

namespace ScopedEngine.Yaml

/-- What becomes of the line breaks at the end: none, one or all are kept. -/
inductive Chomp where
  | strip
  | clip
  | keep
  deriving DecidableEq, Repr

structure BlockHeader where
  chomp : Chomp
  /-- Columns beyond the parent's, when given. -/
  increment : Option Nat
  deriving DecidableEq, Repr

def chomp? : Char → Option Chomp
  | '+' => some .keep
  | '-' => some .strip
  | _ => none

def digit? (c : Char) : Option Nat :=
  if '0' ≤ c && c ≤ '9' then some (c.toNat - 0x30) else none

/-- An optional character at the head of a text. -/
def optional {α : Type} (f : Char → Option α) : List Char → Option α × List Char
  | [] => (none, [])
  | c :: cs =>
    match f c with
    | some a => (some a, cs)
    | none => (none, c :: cs)

/-- The two indicators after `|` or `>`, in either order. -/
def blockHeader (cs : List Char) : BlockHeader × List Char :=
  match optional chomp? cs with
  | (some k, cs) => let (d, cs) := optional digit? cs; (⟨k, d⟩, cs)
  | (none, cs) =>
    match optional digit? cs with
    | (some d, cs) => let (k, cs) := optional chomp? cs; (⟨k.getD .clip, some d⟩, cs)
    | (none, cs) => (⟨.clip, none⟩, cs)

/-- Blanks, a comment and the end of the line; `none` when something else stands there. -/
def restOfLine? (cs : List Char) (m : Mark) : Option Cursor :=
  let s := cs.dropWhile isBlank
  let s := match s with
    | '#' :: _ => s.dropWhile (!isBreak ·)
    | _ => s
  match s with
  | [] => some ⟨[], m.advance cs.length⟩
  | c :: s => if isBreak c then some ⟨s, m.nextLine⟩ else none

/-- The blank lines and the indentation before the first line of text: the widest indentation,
    the breaks (last first) and what is left. -/
def leadingLines : List Char → Mark → Nat → List Char →
    Except SyntaxError (Nat × List Char × Cursor)
  | [], m, width, breaks => .ok (max width m.column, breaks, ⟨[], m⟩)
  | c :: cs, m, width, breaks =>
    if c = ' ' then leadingLines cs (m.next c) width breaks
    else if c = '\t' then .error ⟨.tabIndentation, m⟩
    else if isBreak c then leadingLines cs m.nextLine (max width m.column) (c :: breaks)
    else .ok (max width m.column, breaks, ⟨c :: cs, m⟩)

/-- A block scalar under construction; texts are kept last first. -/
structure Lines where
  text : List Char
  /-- The break that ended the last line of text. -/
  lead : Option Char
  /-- The breaks of the blank lines since. -/
  trail : List Char
  /-- The last line of text started with a blank. -/
  indented : Bool
  deriving DecidableEq, Repr

namespace Lines

/-- Joins the next line, which starts with a blank or not. -/
def join (literal startsBlank : Bool) (l : Lines) : List Char :=
  if !literal && l.lead = some '\n' && !l.indented && !startsBlank then
    if l.trail = [] then ' ' :: l.text else l.trail ++ l.text
  else l.trail ++ l.lead.toList ++ l.text

def startLine (literal : Bool) (c : Char) (l : Lines) : Lines :=
  ⟨c :: l.join literal (isBlank c), none, [], isBlank c⟩

def finish (chomp : Chomp) (l : Lines) : List Char :=
  match chomp with
  | .strip => l.text.reverse
  | .clip => (l.lead.toList ++ l.text).reverse
  | .keep => (l.trail ++ l.lead.toList ++ l.text).reverse

end Lines

/-- The lines indented by `indent` columns; `inside` a line of text or before one. -/
def blockLines (literal : Bool) (indent : Nat) :
    Bool → List Char → Mark → Lines → Except SyntaxError (Lines × Cursor)
  | _, [], m, l => .ok (l, ⟨[], m⟩)
  | true, c :: cs, m, l =>
    if isBreak c then blockLines literal indent false cs m.nextLine { l with lead := some c }
    else blockLines literal indent true cs (m.next c) { l with text := c :: l.text }
  | false, c :: cs, m, l =>
    if c = ' ' && m.column < indent then blockLines literal indent false cs (m.next c) l
    else if c = '\t' && m.column < indent then .error ⟨.tabIndentation, m⟩
    else if isBreak c then
      blockLines literal indent false cs m.nextLine { l with trail := c :: l.trail }
    else if m.column = indent then
      blockLines literal indent true cs (m.next c) (l.startLine literal c)
    else .ok (l, ⟨c :: cs, m⟩)

/-- A block scalar from after its indicator; `parent` is the indentation around it. -/
def blockScalar (literal : Bool) (parent : Int) (cs : List Char) (m : Mark) :
    Except SyntaxError (List Char × Cursor) := do
  let (header, rest) := blockHeader cs
  if header.increment = some 0 then throw ⟨.badBlockHeader, m⟩
  match restOfLine? rest m with
  | none => throw ⟨.badBlockHeader, m⟩
  | some cursor =>
    let (indent, breaks, cursor) ← match header.increment with
      | some n => pure ((max parent 0).toNat + n, [], cursor)
      | none => do
        let (width, breaks, cursor) ← leadingLines cursor.rest cursor.mark 0 []
        pure (max (max width (parent + 1).toNat) 1, breaks, cursor)
    let (l, cursor) ← blockLines literal indent false cursor.rest cursor.mark
      ⟨[], none, breaks, false⟩
    return (l.finish header.chomp, cursor)

end ScopedEngine.Yaml
