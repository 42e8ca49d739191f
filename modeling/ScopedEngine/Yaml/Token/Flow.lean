/-
  ScopedEngine.Yaml.Token.Flow — quoted and plain scalars.

  Both run over lines. Blanks inside a line are kept; a line break with the blanks around it is
  one space, and of several breaks in a row all but the first are kept (`Gap.text`). What
  stands in a gap is added only when more text follows, or, between quotes, at the closing one.
-/

import ScopedEngine.Text.Hex
import ScopedEngine.Yaml.Mark

namespace ScopedEngine.Yaml

/-- What has been read since the last character of a scalar. Runs are kept last first. -/
inductive Gap where
  | none
  | blanks (run : List Char)
  /-- A line break (`none`: one that is escaped), and the breaks after it. -/
  | lines (first : Option Char) (more : List Char)
  deriving DecidableEq, Repr

namespace Gap

def blank (c : Char) : Gap → Gap
  | none => blanks [c]
  | blanks run => blanks (c :: run)
  | lines first more => lines first more

def lineBreak (c : Char) : Gap → Gap
  | none => lines (some c) []
  | blanks _ => lines (some c) []
  | lines first more => lines first (c :: more)

/-- The text that a gap stands for, last first. -/
def text : Gap → List Char
  | none => []
  | blanks run => run
  | lines (some '\n') [] => [' ']
  | lines (some '\n') more => more
  | lines (some c) more => more ++ [c]
  | lines Option.none more => more

def isLines : Gap → Bool
  | lines _ _ => true
  | _ => false

def isSome : Gap → Bool
  | none => false
  | _ => true

end Gap

/-- A scalar under construction. -/
structure Draft where
  /-- The text so far, last first. -/
  text : List Char
  gap : Gap
  /-- Digits still due of a numbered escape, and its value so far. -/
  code : Option (Nat × Nat)
  deriving DecidableEq, Repr

namespace Draft

def empty : Draft := ⟨[], .none, none⟩

def settle (d : Draft) : Draft := ⟨d.gap.text ++ d.text, .none, none⟩

def push (d : Draft) (c : Char) : Draft := ⟨c :: (d.gap.text ++ d.text), .none, none⟩

def blank (d : Draft) (c : Char) : Draft := { d with gap := d.gap.blank c }

def lineBreak (d : Draft) (c : Char) : Draft := { d with gap := d.gap.lineBreak c }

end Draft

/-- An escape is one character, or a number of so many digits. -/
inductive Escape where
  | char (c : Char)
  | code (digits : Nat)
  deriving DecidableEq, Repr

def escape? : Char → Option Escape
  | '0' => some (.char '\x00')
  | 'a' => some (.char '\x07')
  | 'b' => some (.char '\x08')
  | 't' => some (.char '\t')
  | '\t' => some (.char '\t')
  | 'n' => some (.char '\n')
  | 'v' => some (.char '\x0b')
  | 'f' => some (.char '\x0c')
  | 'r' => some (.char '\r')
  | 'e' => some (.char '\x1b')
  | ' ' => some (.char ' ')
  | '"' => some (.char '"')
  | '/' => some (.char '/')
  | '\\' => some (.char '\\')
  | 'N' => some (.char '\u0085')
  | '_' => some (.char '\u00a0')
  | 'L' => some (.char '\u2028')
  | 'P' => some (.char '\u2029')
  | 'x' => some (.code 2)
  | 'u' => some (.code 4)
  | 'U' => some (.code 8)
  | _ => none

/-- The character of a number that is one. -/
def charOf? (n : Nat) : Option Char := if n.isValidChar then some (Char.ofNat n) else none

/-- The text up to the closing double quote. -/
def doubleQuoted : List Char → Mark → Draft → Except SyntaxError (List Char × Cursor)
  | [], m, _ => .error ⟨.unterminatedQuote, m⟩
  | c :: cs, m, d =>
    match d.code with
    | some (k, v) =>
      match Text.hexValue? c with
      | none => .error ⟨.badEscape, m⟩
      | some h =>
        if k ≤ 1 then
          match charOf? (v * 16 + h) with
          | none => .error ⟨.badEscape, m⟩
          | some x => doubleQuoted cs (m.next c) (d.push x)
        else doubleQuoted cs (m.next c) { d with code := some (k - 1, v * 16 + h) }
    | none =>
      if isBlank c then doubleQuoted cs (m.next c) (d.blank c)
      else if isBreak c then doubleQuoted cs m.nextLine (d.lineBreak c)
      else if m.column = 0 && atDocumentMark (c :: cs) then .error ⟨.documentMarkInQuote, m⟩
      else if c = '"' then .ok (d.settle.text.reverse, ⟨cs, m.next c⟩)
      else if c = '\\' then
        match cs with
        | [] => .error ⟨.unterminatedQuote, m⟩
        | e :: cs =>
          if isBreak e then doubleQuoted cs m.nextLine { d.settle with gap := .lines none [] }
          else
            match escape? e with
            | none => .error ⟨.badEscape, m⟩
            | some (.char x) => doubleQuoted cs (m.advance 2) (d.push x)
            | some (.code k) => doubleQuoted cs (m.advance 2) { d.settle with code := some (k, 0) }
      else doubleQuoted cs (m.next c) (d.push c)

/-- The text up to the closing single quote; a quote inside is written twice. -/
def singleQuoted : List Char → Mark → Draft → Except SyntaxError (List Char × Cursor)
  | [], m, _ => .error ⟨.unterminatedQuote, m⟩
  | c :: cs, m, d =>
    if isBlank c then singleQuoted cs (m.next c) (d.blank c)
    else if isBreak c then singleQuoted cs m.nextLine (d.lineBreak c)
    else if m.column = 0 && atDocumentMark (c :: cs) then .error ⟨.documentMarkInQuote, m⟩
    else if c = '\'' then
      match cs with
      | '\'' :: cs => singleQuoted cs (m.advance 2) (d.push '\'')
      | cs => .ok (d.settle.text.reverse, ⟨cs, m.next c⟩)
    else singleQuoted cs (m.next c) (d.push c)

/-- A plain scalar: its text, whether a line break follows it, and what is left. -/
structure Plain where
  text : List Char
  broken : Bool
  cursor : Cursor
  deriving DecidableEq, Repr

/-- The scalar as far as it has been read; a gap at its end is not part of it. -/
def Draft.toPlain (d : Draft) (rest : List Char) (m : Mark) : Plain :=
  ⟨d.text.reverse, d.gap.isLines, ⟨rest, m⟩⟩

def isFlowIndicator (c : Char) : Bool :=
  c = ',' || c = '[' || c = ']' || c = '\x7b' || c = '\x7d'

/-- In a flow collection a colon may not touch an indicator. -/
def colonTouches : List Char → Bool
  | c :: _ => isFlowIndicator c || c = '?'
  | [] => false

/-- A plain scalar ends before `: `, before an indicator of a flow collection, before a comment,
    and before a line that is not indented by `indent` columns. -/
def plain (flow : Bool) (indent : Int) :
    List Char → Mark → Draft → Except SyntaxError Plain
  | [], m, d => .ok (d.toPlain [] m)
  | c :: cs, m, d =>
    if isBlank c then
      if c = '\t' && d.gap.isLines && (m.column : Int) < indent then .error ⟨.tabIndentation, m⟩
      else plain flow indent cs (m.next c) (d.blank c)
    else if isBreak c then plain flow indent cs m.nextLine (d.lineBreak c)
    else if d.gap.isSome && ((!flow && (m.column : Int) < indent)
        || (m.column = 0 && atDocumentMark (c :: cs)) || c = '#') then .ok (d.toPlain (c :: cs) m)
    else if flow && c = ':' && colonTouches cs then .error ⟨.colonInFlow, m⟩
    else if (c = ':' && atWordEnd cs) || (flow && isFlowIndicator c) then
      .ok (d.toPlain (c :: cs) m)
    else plain flow indent cs (m.next c) (d.push c)

end ScopedEngine.Yaml
