/-
  ScopedEngine.Yaml.Token — a text as a sequence of tokens.

  Indentation becomes explicit: a block collection opens with its own token and closes with
  `blockEnd` when a line starts further left. A mapping key is known as one only at its colon:
  every token that may start a key is remembered (`PendingKey`, one for each open flow
  collection and one for the block around them), and at the colon the `key` token is put in
  front of it. Such a key stands on one line and spans at most 1024 bytes.
-/

import ScopedEngine.Yaml.Token.Flow
import ScopedEngine.Yaml.Token.Block
import ScopedEngine.Yaml.Token.Tag

namespace ScopedEngine.Yaml

inductive Style where
  | plain
  | quoted
  | block
  deriving DecidableEq, Repr

inductive Lexeme where
  | streamEnd
  | directive (d : Directive)
  | documentStart
  | documentEnd
  | blockSequenceStart
  | blockMappingStart
  | blockEnd
  | flowSequenceStart
  | flowSequenceEnd
  | flowMappingStart
  | flowMappingEnd
  | blockEntry
  | flowEntry
  | key
  | value
  | aliasOf (name : List Char)
  | anchor (name : List Char)
  | tag (t : Tag)
  | scalar (text : List Char) (style : Style)
  deriving DecidableEq, Repr

structure Token where
  lexeme : Lexeme
  mark : Mark
  deriving DecidableEq, Repr

namespace Token

/-- A place where a key may have started. -/
structure PendingKey where
  /-- Nothing but a key can stand there. -/
  required : Bool
  /-- The number of its first token. -/
  first : Nat
  mark : Mark
  deriving DecidableEq, Repr

structure State where
  /-- The tokens so far, last first, and their number. -/
  tokens : List Token
  count : Nat
  /-- The column of the innermost block collection (-1: none is open), and of those around it. -/
  indent : Int
  indents : List Int
  /-- The possible key of the innermost flow collection, or of the block if none is open. -/
  key : Option PendingKey
  /-- The possible keys around it: one for each open flow collection. -/
  outer : List (Option PendingKey)
  keyAllowed : Bool
  deriving DecidableEq, Repr

namespace State

def init : State := ⟨[], 0, -1, [], none, [], true⟩

def inFlow (s : State) : Bool := !s.outer.isEmpty

def emit (s : State) (l : Lexeme) (m : Mark) : State :=
  { s with tokens := ⟨l, m⟩ :: s.tokens, count := s.count + 1 }

/-- Puts a token in front of token `i`. -/
def insertAt (s : State) (i : Nat) (l : Lexeme) (m : Mark) : State :=
  { s with tokens := s.tokens.insertIdx (s.count - i) ⟨l, m⟩, count := s.count + 1 }

/-- Opens a block collection at a column, unless one is open there or further right. -/
def opens (s : State) (column : Nat) : Bool := !s.inFlow && s.indent < column

def openBlock (s : State) (column : Nat) : State :=
  { s with indent := column, indents := s.indent :: s.indents }

/-- Closes the block collections that stand further right than `column`. -/
def closeTo (column : Int) (m : Mark) : List Int → State → State
  | [], s => if column < s.indent then { s.emit .blockEnd m with indent := -1, indents := [] } else s
  | i :: is, s =>
    if column < s.indent then
      closeTo column m is { s.emit .blockEnd m with indent := i, indents := is }
    else s

def unindent (s : State) (column : Int) (m : Mark) : State :=
  if s.inFlow then s else closeTo column m s.indents s

/-- Gives up the possible key; an error if a key is required there. -/
def dropKey (s : State) : Except SyntaxError State :=
  match s.key with
  | some k => if k.required then .error ⟨.keyWithoutColon, k.mark⟩ else .ok { s with key := none }
  | none => .ok s

/-- Remembers that a key may start here. -/
def saveKey (s : State) (m : Mark) : Except SyntaxError State :=
  if s.keyAllowed then do
    let required := !s.inFlow && s.indent = m.column
    let s ← s.dropKey
    return { s with key := some ⟨required, s.count, m⟩ }
  else .ok s

end State

/-- A key ends on its line and within 1024 bytes. -/
def PendingKey.isStale (m : Mark) (k : PendingKey) : Bool :=
  k.mark.line < m.line || k.mark.offset + 1024 < m.offset

/-- The key, if it can still become one at `m`. -/
def freshKey (m : Mark) : Option PendingKey → Except SyntaxError (Option PendingKey)
  | some k =>
    if k.isStale m then if k.required then .error ⟨.keyWithoutColon, k.mark⟩ else .ok none
    else .ok (some k)
  | none => .ok none

/-- Gives up the keys that can no longer become one. -/
def State.dropStale (s : State) (m : Mark) : Except SyntaxError State :=
  if (s.key :: s.outer).any fun k => k.any (·.isStale m) then do
    let outer ← s.outer.mapM (freshKey m)
    let key ← freshKey m s.key
    return { s with key, outer }
  else .ok s

/-- Blanks, comments and line breaks up to the next token. A tab may not indent a line that
    can start a key; in a block a new line can. -/
def skipGap (flow : Bool) : (comment : Bool) → (allowed : Bool) → List Char → Mark → Bool × Cursor
  | _, allowed, [], m => (allowed, ⟨[], m⟩)
  | comment, allowed, c :: cs, m =>
    if isBreak c then skipGap flow false (allowed || !flow) cs m.nextLine
    else if comment then skipGap flow true allowed cs (m.next c)
    else if c = '\ufeff' && m.column = 0 then skipGap flow false allowed cs (m.next c)
    else if c = ' ' || (c = '\t' && (flow || !allowed)) then skipGap flow false allowed cs (m.next c)
    else if c = '#' then skipGap flow true allowed cs (m.next c)
    else (allowed, ⟨c :: cs, m⟩)

namespace State

/-- Ends every block before a directive or a document mark. -/
def leaveDocument (s : State) (m : Mark) : Except SyntaxError State := do
  let s ← (s.unindent (-1) m).dropKey
  return { s with keyAllowed := false }

def flowStart (s : State) (l : Lexeme) (m : Mark) : Except SyntaxError State := do
  let s ← s.saveKey m
  return { s.emit l m with key := none, outer := s.key :: s.outer, keyAllowed := true }

def flowEnd (s : State) (l : Lexeme) (m : Mark) : Except SyntaxError State := do
  let s ← s.dropKey
  let s := { s.emit l m with keyAllowed := false }
  match s.outer with
  | [] => return s
  | k :: outer => return { s with key := k, outer }

def flowEntry (s : State) (m : Mark) : Except SyntaxError State := do
  let s ← s.dropKey
  return { s.emit .flowEntry m with keyAllowed := true }

def blockEntry (s : State) (m : Mark) : Except SyntaxError State := do
  if !s.inFlow && !s.keyAllowed then throw ⟨.notAllowedHere, m⟩
  let s := if s.opens m.column then (s.openBlock m.column).emit .blockSequenceStart m else s
  let s ← s.dropKey
  return { s.emit .blockEntry m with keyAllowed := true }

/-- A key with an explicit mark. -/
def explicitKey (s : State) (m : Mark) : Except SyntaxError State := do
  if !s.inFlow && !s.keyAllowed then throw ⟨.notAllowedHere, m⟩
  let s := if s.opens m.column then (s.openBlock m.column).emit .blockMappingStart m else s
  let s ← s.dropKey
  return { s.emit .key m with keyAllowed := !s.inFlow }

/-- A colon: it makes the possible key one, or belongs to a key with an explicit mark. -/
def value (s : State) (m : Mark) : Except SyntaxError State :=
  match s.key with
  | some k =>
    let s := s.insertAt k.first .key k.mark
    let s :=
      if s.opens k.mark.column then
        (s.openBlock k.mark.column).insertAt k.first .blockMappingStart k.mark
      else s
    .ok { s.emit .value m with key := none, keyAllowed := false }
  | none =>
    if s.inFlow then .ok { s.emit .value m with keyAllowed := false }
    else if !s.keyAllowed then .error ⟨.notAllowedHere, m⟩
    else
      let s := if s.opens m.column then (s.openBlock m.column).emit .blockMappingStart m else s
      .ok { s.emit .value m with keyAllowed := true }

/-- The last tokens of a text. -/
def finish (s : State) (m : Mark) : Except SyntaxError State := do
  let m := if m.column = 0 then m else m.nextLine
  let s ← s.leaveDocument m
  return s.emit .streamEnd m

/-- A token that may start a key. -/
def node (s : State) (l : Lexeme) (m : Mark) : Except SyntaxError State := do
  let s ← s.saveKey m
  return { s.emit l m with keyAllowed := false }

end State

/-- Characters that start no plain scalar. -/
def isIndicator (c : Char) : Bool :=
  "-?:,[]\x7b\x7d#&*!|>'\"%@`".toList.contains c

/-- Whether a plain scalar starts here. Before a character of a word `-` may start one, and in
    a block `?` and `:`. -/
def startsPlain (flow : Bool) (c : Char) (cs : List Char) : Bool :=
  (!isIndicator c && !isBlank c)
    || (c = '-' && !(cs.head?.any isBlank))
    || (!flow && (c = '?' || c = ':') && !atWordEnd cs)

/-- The token that starts with `c` at `m`, and what is left. -/
def next (s : State) (c : Char) (cs : List Char) (m : Mark) :
    Except SyntaxError (State × Cursor) :=
  let one := fun (r : Except SyntaxError State) => r.map fun s => (s, (⟨cs, m.next c⟩ : Cursor))
  let flow := s.inFlow
  if m.column = 0 && c = '%' then do
    let s ← s.leaveDocument m
    let (d, cur) ← directive cs m
    return (s.emit (.directive d) m, cur)
  else if m.column = 0 && atDocumentMark (c :: cs) then do
    let s ← s.leaveDocument m
    return (s.emit (if c = '-' then .documentStart else .documentEnd) m,
      ⟨cs.drop 2, m.advance 3⟩)
  else if c = '[' then one (s.flowStart .flowSequenceStart m)
  else if c = '\x7b' then one (s.flowStart .flowMappingStart m)
  else if c = ']' then one (s.flowEnd .flowSequenceEnd m)
  else if c = '\x7d' then one (s.flowEnd .flowMappingEnd m)
  else if c = ',' then one (s.flowEntry m)
  else if c = '-' && atWordEnd cs then one (s.blockEntry m)
  else if c = '?' && (flow || atWordEnd cs) then one (s.explicitKey m)
  else if c = ':' && (flow || atWordEnd cs) then one (s.value m)
  else if c = '*' then do
    let (name, cur) ← anchorName cs m
    return (← s.node (.aliasOf name) m, cur)
  else if c = '&' then do
    let (name, cur) ← anchorName cs m
    return (← s.node (.anchor name) m, cur)
  else if c = '!' then do
    let (t, cur) ← tag flow cs m
    return (← s.node (.tag t) m, cur)
  else if (c = '|' || c = '>') && !flow then do
    let s ← s.dropKey
    let (text, cur) ← blockScalar (c = '|') s.indent cs m
    return ({ s.emit (.scalar text .block) m with keyAllowed := true }, cur)
  else if c = '\'' then do
    let (text, cur) ← singleQuoted cs (m.next c) .empty
    return (← s.node (.scalar text .quoted) m, cur)
  else if c = '"' then do
    let (text, cur) ← doubleQuoted cs (m.next c) .empty
    return (← s.node (.scalar text .quoted) m, cur)
  else if startsPlain flow c cs then do
    let p ← plain flow (s.indent + 1) (c :: cs) m .empty
    let s ← s.node (.scalar p.text .plain) m
    return ({ s with keyAllowed := p.broken }, p.cursor)
  else .error ⟨.noTokenStart, m⟩

/-- The tokens from a place on; each takes at least one character, so `n` is never used up. -/
def scanFrom : (n : Nat) → State → Cursor → Except SyntaxError (List Token)
  | 0, _, cur => .error ⟨.noTokenStart, cur.mark⟩
  | n + 1, s, cur => do
    let (allowed, cur) := skipGap s.inFlow false s.keyAllowed cur.rest cur.mark
    let s ← { s with keyAllowed := allowed }.dropStale cur.mark
    let s := s.unindent cur.mark.column cur.mark
    match cur.rest with
    | [] => do
      let s ← s.finish cur.mark
      return s.tokens.reverse
    | c :: cs => do
      let (s, cur) ← next s c cs cur.mark
      scanFrom n s cur

/-- The tokens of a text. -/
def scan (text : List Char) : Except SyntaxError (List Token) := do
  let text ← Source.ofChars? text
  scanFrom (text.length + 1) .init ⟨text, .start⟩

end Token

end ScopedEngine.Yaml
