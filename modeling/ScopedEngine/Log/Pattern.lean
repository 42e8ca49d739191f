/-
  ScopedEngine.Log.Pattern — which texts are patterns for the values of fields.

  A pattern is a regular expression: alternatives (`|`) of sequences of characters, `.`,
  brackets, groups and places (`^`, `$`, `\b`), repeated by `?`, `*` and `+`. `isPattern` says
  which texts are well formed; what they match is not asked here. The text of a pattern stands
  between braces in a list of directives, so no counted repetition is ever complete in it.

  Matching runs over UTF-8 and knows no tables of other scripts. So the flag `u`, set at first,
  excludes what would need one (`\d`, `\s`, `\w`, `\b`, letters regardless of case), and without
  it nothing may match a part of a character.
-/

import ScopedEngine.Text.Blank
import ScopedEngine.Text.Hex
import ScopedEngine.Text.Letter

namespace ScopedEngine.Log.Pattern

open Text

/-- The flags that decide what is well formed. -/
structure Flags where
  /-- `i`: letters match regardless of case. -/
  ignoreCase : Bool
  /-- `u`: characters are matched, not bytes. -/
  unicode : Bool
  /-- `x`: blanks and comments do not count. -/
  spacious : Bool
  deriving DecidableEq, Repr

namespace Flags

def init : Flags := ⟨false, true, false⟩

/-- A character or a set may stand here: its other cases need not be known. -/
def admits (f : Flags) : Bool := !(f.ignoreCase && f.unicode)

/-- Drops blanks and comments; a comment ends with its line. -/
def skipSpace : (comment : Bool) → List Char → List Char
  | _, [] => []
  | true, c :: s => skipSpace (c ≠ '\n') s
  | false, c :: s =>
    if isBlank c then skipSpace false s
    else if c = '#' then skipSpace true s
    else c :: s

def skip (f : Flags) (s : List Char) : List Char := if f.spacious then skipSpace false s else s

def set (f : Flags) (flag : Char) (on : Bool) : Flags :=
  match flag with
  | 'i' => { f with ignoreCase := on }
  | 'u' => { f with unicode := on }
  | 'x' => { f with spacious := on }
  | _ => f

end Flags

/-- What one escape or one character of a bracket is. -/
inductive Atom where
  | char (c : Char)
  | set
  | place
  deriving DecidableEq, Repr

/-- The character with a number of `n` digits in base 16. -/
def numbered (f : Flags) : (n value : Nat) → List Char → Option (Char × List Char)
  | 0, value, s => if value.isValidChar then some (Char.ofNat value, s) else none
  | n + 1, value, s =>
    match f.skip s with
    | [] => none
    | c :: s => (hexValue? c).bind fun d => numbered f n (value * 16 + d) s

/-- A character by its number; without `u` two digits name a byte, which has to be ASCII. -/
def numberedAtom (f : Flags) (n : Nat) (s : List Char) : Option (Atom × List Char) :=
  (numbered f n 0 s).bind fun (c, s) =>
    if !f.unicode && n = 2 && 0x80 ≤ c.toNat then none else some (.char c, f.skip s)

/-- What stands after a backslash. -/
def escape? (f : Flags) : List Char → Option (Atom × List Char)
  | [] => none
  | c :: s =>
    if c = 'x' then numberedAtom f 2 s
    else if c = 'u' then numberedAtom f 4 s
    else if c = 'U' then numberedAtom f 8 s
    else if "bB<>".toList.contains c then if f.unicode then none else some (.place, s)
    else if "dsw".toList.contains c then if f.unicode then none else some (.set, s)
    else if "Az".toList.contains c then some (.place, s)
    else if "aftnrv".toList.contains c then some (.char c, s)
    else if c.isAlphanum || 0x80 ≤ c.toNat then none
    else some (.char c, s)

/-! ## Brackets -/

def setNames : List String :=
  ["alnum", "alpha", "ascii", "blank", "cntrl", "digit", "graph", "lower", "print", "punct",
    "space", "upper", "word", "xdigit"]

/-- A set by its name, `:name:]` or `:^name:]`: whether it is the complement, and what is left. -/
def namedSet? : List Char → Option (Bool × List Char)
  | ':' :: s =>
    let (negated, s) := match s with
      | '^' :: s => (true, s)
      | s => (false, s)
    match s.dropWhile (· ≠ ':') with
    | ':' :: ']' :: rest =>
      if setNames.contains (String.ofList (s.takeWhile (· ≠ ':'))) then some (negated, rest)
      else none
    | _ => none
  | _ => none

/-- After an opening bracket: a caret, then hyphens or else a closing bracket stand for
    themselves. A complement holds bytes that are not ASCII. -/
def openBracket? (f : Flags) (s : List Char) : Option (List Char) :=
  let (negated, s) := match f.skip s with
    | '^' :: s => (true, f.skip s)
    | s => (false, s)
  let (found, s) := match s with
    | '-' :: s => (true, f.skip (s.dropWhile (· = '-')))
    | ']' :: s => (true, f.skip s)
    | s => (false, s)
  if (negated && !f.unicode) || (found && !f.admits) then none else some s

/-- One character, set or place in a bracket. -/
def bracketAtom? (f : Flags) : List Char → Option (Atom × List Char)
  | [] => none
  | '\\' :: s => escape? f s
  | c :: s => some (.char c, s)

/-- Whether an atom may stand in a bracket. -/
def bracketAdmits (f : Flags) : Atom → Bool
  | .char c => f.admits && (f.unicode || c.toNat < 0x80)
  | .set => f.admits
  | .place => false

/-- Two ends of a range in order. -/
def isRange : Atom → Atom → Bool
  | .char a, .char b => a ≤ b
  | _, _ => false

/-- An atom of a bracket, or a range of characters. A hyphen before the closing bracket or
    before another hyphen makes no range. -/
def bracketItem? (f : Flags) (s : List Char) : Option (List Char) :=
  (bracketAtom? f s).bind fun (a, s) =>
    if !bracketAdmits f a then none
    else
      match f.skip s with
      | '-' :: s =>
        match f.skip s with
        | ']' :: _ => some ('-' :: s)
        | '-' :: _ => some ('-' :: s)
        | s =>
          (bracketAtom? f s).bind fun (b, s) =>
            if bracketAdmits f b && isRange a b then some s else none
      | s => some s

/-- The text after `depth` open brackets are closed; every step takes at least one character,
    so `n` is never used up. -/
def closeBrackets? (f : Flags) : (n depth : Nat) → List Char → Option (List Char)
  | 0, _, _ => none
  | n + 1, depth, s =>
    match f.skip s with
    | [] => none
    | '[' :: s =>
      match namedSet? s with
      | some (negated, rest) =>
        if !f.admits || (negated && !f.unicode) then none else closeBrackets? f n depth rest
      | none => (openBracket? f s).bind (closeBrackets? f n (depth + 1))
    | ']' :: s => if depth ≤ 1 then some s else closeBrackets? f n (depth - 1) s
    | '&' :: '&' :: s => closeBrackets? f n depth s
    | '-' :: '-' :: s => closeBrackets? f n depth s
    | '~' :: '~' :: s => closeBrackets? f n depth s
    | s => (bracketItem? f s).bind (closeBrackets? f n depth)

/-! ## Groups -/

/-- The names of the flags. -/
def flagNames : List Char := "imsUuRx".toList

/-- Flags up to `:` or `)`: each at most once, those after a hyphen off. The answer says
    whether a group opens, and the flags from here on. -/
def flagRun? (f : Flags) : (seen : List Char) → (off dangling : Bool) → List Char →
    Option (Bool × Flags × List Char)
  | _, _, _, [] => none
  | seen, off, dangling, c :: s =>
    if c = ':' || c = ')' then
      if dangling || (c = ')' && seen = []) then none else some (c = ':', f, s)
    else if c = '-' then if off then none else flagRun? f seen true true s
    else if flagNames.contains c && !seen.contains c then
      flagRun? (f.set c (!off)) (c :: seen) off false s
    else none

def isNameStart (c : Char) : Bool := c = '_' || isLetter c

def isNamePart (c : Char) : Bool :=
  c = '_' || c = '.' || c = '[' || c = ']' || isAlphanumeric c

/-- The name of a group, up to `>`. -/
def groupName? (s : List Char) : Option (List Char × List Char) :=
  let name := s.takeWhile (· ≠ '>')
  match name, s.dropWhile (· ≠ '>') with
  | c :: cs, '>' :: rest => if isNameStart c && cs.all isNamePart then some (name, rest) else none
  | _, _ => none

/-- What stands after an opening parenthesis. -/
inductive Opening where
  /-- Flags for the rest of the group around. -/
  | flags (f : Flags)
  | group (f : Flags) (name : Option (List Char))
  deriving DecidableEq, Repr

def opening? (f : Flags) (s : List Char) : Option (Opening × List Char) :=
  let named := fun (s : List Char) =>
    (groupName? s).map fun (name, rest) => (Opening.group f (some name), rest)
  match f.skip s with
  | '?' :: 'P' :: '<' :: s => named s
  | '?' :: '<' :: s => named s
  | '?' :: s =>
    (flagRun? f [] false false s).map fun (opens, g, rest) =>
      (if opens then .group g none else .flags g, rest)
  | s => some (.group f none, s)

/-! ## Patterns -/

/-- The place of a reader between two items of a pattern. -/
structure State where
  flags : Flags
  /-- The flags of the open groups, the innermost first. -/
  around : List Flags
  /-- Something stands here that can be repeated. -/
  item : Bool
  /-- The names of groups so far. -/
  names : List (List Char)
  deriving DecidableEq, Repr

namespace State

def init : State := ⟨.init, [], false, []⟩

/-- After an item that can be repeated. -/
def afterItem (st : State) : State := { st with item := true }

def enter (st : State) : Opening → Option State
  | .flags f => some { st with flags := f, item := false }
  | .group f name =>
    if name.any st.names.contains then none
    else some ⟨f, st.flags :: st.around, false, name.toList ++ st.names⟩

def leave (st : State) : Option State :=
  match st.around with
  | [] => none
  | f :: around => some { st with flags := f, around, item := true }

end State

/-- The next item, from its first character `c`. -/
def item? (st : State) (c : Char) (s : List Char) : Option (State × List Char) :=
  let f := st.flags
  match c with
  | '(' => (opening? f s).bind fun (o, s) => (st.enter o).map (·, s)
  | ')' => st.leave.map (·, s)
  | '|' => some ({ st with item := false }, s)
  | '[' =>
    (openBracket? f s).bind fun s =>
      (closeBrackets? f (s.length + 1) 1 s).map (st.afterItem, ·)
  | '\x7b' => none
  | '\\' =>
    (escape? f s).bind fun (a, s) =>
      if a ≠ .place && !f.admits then none else some (st.afterItem, s)
  | '.' => if f.unicode then some (st.afterItem, s) else none
  | '^' => some (st.afterItem, s)
  | '$' => some (st.afterItem, s)
  | c =>
    if c = '?' || c = '*' || c = '+' then
      if st.item then
        some (st, match s with
          | '?' :: s => s
          | s => s)
      else none
    else if f.admits then some (st.afterItem, s)
    else none

/-- Reads to the end; every item takes at least one character, so `n` is never used up. -/
def readsFrom : (n : Nat) → State → List Char → Bool
  | 0, _, _ => false
  | n + 1, st, s =>
    match st.flags.skip s with
    | [] => st.around = []
    | c :: s =>
      match item? st c s with
      | some (st, s) => readsFrom n st s
      | none => false

end Pattern

/-- The texts that are patterns. -/
def isPattern (s : List Char) : Bool := Pattern.readsFrom (s.length + 1) .init s

end ScopedEngine.Log
