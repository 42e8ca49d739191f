/-
  ScopedEngine.Yaml.Node — a document as a tree.

  An alias names a slot. A slot belongs to the last definition made in it; a definition is made
  in the slot numbered by how many different names are in use before it, and its name then
  means that slot. So names that are each defined once have a slot of their own.
-/

import ScopedEngine.Yaml.Token

namespace ScopedEngine.Yaml

structure Scalar where
  text : List Char
  style : Style
  tag : Option Bytes
  deriving DecidableEq, Repr

inductive Node where
  | scalar (mark : Mark) (s : Scalar)
  | sequence (mark : Mark) (items : List Node)
  | mapping (mark : Mark) (entries : List (Node × Node))
  | aliasOf (mark : Mark) (slot : Nat)
  deriving Repr

/-- A definition: its number in the order of the text, its slot and its node. -/
structure Definition where
  order : Nat
  slot : Nat
  node : Node
  deriving Repr

structure Document where
  /-- `none`: the text holds no document. -/
  root : Option Node
  definitions : List Definition
  deriving Repr

namespace Document

/-- The last definition made in a slot. -/
def slot? (d : Document) (slot : Nat) : Option Node :=
  let step := fun (best : Option Definition) (x : Definition) =>
    if x.slot ≠ slot then best
    else
      match best with
      | some b => if b.order < x.order then some x else some b
      | none => some x
  (d.definitions.foldl step none).map (·.node)

/-- The node that a node stands for. -/
def resolve (d : Document) : Node → Node
  | .aliasOf m i => (d.slot? i).getD (.aliasOf m i)
  | n => n

end Document

namespace Node

def mark : Node → Mark
  | scalar m _ => m
  | sequence m _ => m
  | mapping m _ => m
  | aliasOf m _ => m

/-- A node that is not written. -/
def absent (m : Mark) : Node := .scalar m ⟨[], .plain, none⟩

/-- The anchors met so far. -/
structure Anchors where
  /-- The names with their slots, each name once. -/
  names : List (List Char × Nat)
  /-- How many definitions have been started. -/
  started : Nat
  definitions : List Definition

namespace Anchors

def empty : Anchors := ⟨[], 0, []⟩

def slot? (a : Anchors) (name : List Char) : Option Nat := a.names.lookup name

/-- Starts a definition, if there is one: its order and slot. -/
def start (a : Anchors) : Option (List Char) → Anchors × Option (Nat × Nat)
  | none => (a, none)
  | some name =>
    let slot := a.names.length
    let names := (name, slot) :: a.names.filter (·.1 ≠ name)
    ({ a with names, started := a.started + 1 }, some (a.started, slot))

/-- Completes a definition. -/
def define (a : Anchors) (d : Option (Nat × Nat)) (n : Node) : Anchors :=
  match d with
  | none => a
  | some (order, slot) => { a with definitions := ⟨order, slot, n⟩ :: a.definitions }

end Anchors

/-- Anchor and tag in front of a node, and where they start. -/
structure Properties where
  anchor : Option (List Char)
  tag : Option Tag
  mark : Mark
  deriving DecidableEq, Repr

/-- Anchor and tag, each at most once, in either order. -/
def properties (ts : List Token) : Properties × List Token :=
  match ts with
  | ⟨.anchor a, m⟩ :: ⟨.tag t, _⟩ :: ts => (⟨some a, some t, m⟩, ts)
  | ⟨.anchor a, m⟩ :: ts => (⟨some a, none, m⟩, ts)
  | ⟨.tag t, m⟩ :: ⟨.anchor a, _⟩ :: ts => (⟨some a, some t, m⟩, ts)
  | ⟨.tag t, m⟩ :: ts => (⟨none, some t, m⟩, ts)
  | t :: ts => (⟨none, none, t.mark⟩, t :: ts)
  | [] => (⟨none, none, .start⟩, [])

/-- The handles of a document and what they stand for. -/
abbrev Handles := List (List Char × Bytes)

/-- `!` stands for itself, `!!` for the tags of YAML. -/
def defaultHandles : Handles :=
  [(['!'], Utf8.ofString "!"), (['!', '!'], Utf8.ofString "tag:yaml.org,2002:")]

def resolveTag (hs : Handles) (m : Mark) (t : Tag) : Except SyntaxError Bytes :=
  if t.handle = [] then .ok t.suffix
  else
    match hs.lookup t.handle with
    | some target => .ok (target ++ t.suffix)
    | none => .error ⟨.undefinedTagHandle, m⟩

/-- The tag `!` on a scalar says nothing. -/
def scalarTag (t : Option Bytes) : Option Bytes := if t = some [0x21] then none else t

def unexpected {α : Type} : List Token → Except SyntaxError α
  | t :: _ => .error ⟨.unexpectedToken, t.mark⟩
  | [] => .error ⟨.unexpectedToken, .start⟩

def markOf : List Token → Mark
  | t :: _ => t.mark
  | [] => .start

def headLexeme? : List Token → Option Lexeme
  | t :: _ => some t.lexeme
  | [] => none

/-- What has been read: a node, the tokens left and the anchors; or why it cannot be. -/
abbrev Reading := Except SyntaxError (Node × List Token × Anchors)

mutual

/-- One node. `block`: block collections may start here; `indentless`: so may a sequence whose
    dashes stand in the column of the key above. -/
def read (hs : Handles) : (fuel : Nat) → (block indentless : Bool) → List Token → Anchors → Reading
  | 0, _, _, ts, _ => unexpected ts
  | n + 1, block, indentless, ts, a =>
    match ts with
    | ⟨.aliasOf name, m⟩ :: ts =>
      match a.slot? name with
      | some i => .ok (.aliasOf m i, ts, a)
      | none => .error ⟨.undefinedAnchor, m⟩
    | ts => do
      let (p, ts) := properties ts
      let tag ← p.tag.mapM (resolveTag hs p.mark)
      let (a, d) := a.start p.anchor
      let finish := fun (r : Reading) => r.map fun (x, ts, a) => (x, ts, a.define d x)
      match ts with
      | ⟨.blockEntry, _⟩ :: _ =>
        if indentless then
          finish (readIndentless hs n p.mark ts a [])
        else if p.anchor.isSome || tag.isSome then
          finish (.ok (.scalar p.mark ⟨[], .plain, tag⟩, ts, a))
        else unexpected ts
      | ⟨.scalar text style, _⟩ :: ts =>
        finish (.ok (.scalar p.mark ⟨text, style, scalarTag tag⟩, ts, a))
      | ⟨.flowSequenceStart, _⟩ :: ts => finish (readFlowSequence hs n p.mark true ts a [])
      | ⟨.flowMappingStart, _⟩ :: ts => finish (readFlowMapping hs n p.mark true ts a [])
      | ts =>
        if block && headLexeme? ts = some .blockSequenceStart then
          finish (readBlockSequence hs n p.mark (ts.drop 1) a [])
        else if block && headLexeme? ts = some .blockMappingStart then
          finish (readBlockMapping hs n p.mark (ts.drop 1) a [])
        else if p.anchor.isSome || tag.isSome then
          finish (.ok (.scalar p.mark ⟨[], .plain, tag⟩, ts, a))
        else unexpected ts

/-- The items of a block sequence (last first so far). -/
def readBlockSequence (hs : Handles) :
    (fuel : Nat) → Mark → List Token → Anchors → List Node → Reading
  | 0, _, ts, _, _ => unexpected ts
  | n + 1, m, ts, a, items =>
    match ts with
    | ⟨.blockEnd, _⟩ :: ts => .ok (.sequence m items.reverse, ts, a)
    | ⟨.blockEntry, _⟩ :: ts =>
      match ts with
      | ⟨.blockEntry, e⟩ :: _ => readBlockSequence hs n m ts a (absent e :: items)
      | ⟨.blockEnd, e⟩ :: _ => readBlockSequence hs n m ts a (absent e :: items)
      | ts => do
        let (x, ts, a) ← read hs n true false ts a
        readBlockSequence hs n m ts a (x :: items)
    | ts => unexpected ts

/-- The items of a sequence that ends where its dashes do. -/
def readIndentless (hs : Handles) :
    (fuel : Nat) → Mark → List Token → Anchors → List Node → Reading
  | 0, _, ts, _, _ => unexpected ts
  | n + 1, m, ts, a, items =>
    match ts with
    | ⟨.blockEntry, _⟩ :: ts =>
      match headLexeme? ts with
      | some .blockEntry => readIndentless hs n m ts a (absent (markOf ts) :: items)
      | some .key => readIndentless hs n m ts a (absent (markOf ts) :: items)
      | some .value => readIndentless hs n m ts a (absent (markOf ts) :: items)
      | some .blockEnd => readIndentless hs n m ts a (absent (markOf ts) :: items)
      | _ => do
        let (x, ts, a) ← read hs n true false ts a
        readIndentless hs n m ts a (x :: items)
    | ts => .ok (.sequence m items.reverse, ts, a)

/-- A key or a value of a block mapping, absent before the next mark. -/
def readBlockPart (hs : Handles) : (fuel : Nat) → List Token → Anchors → Reading
  | 0, ts, _ => unexpected ts
  | n + 1, ts, a =>
    match headLexeme? ts with
    | some .key => .ok (absent (markOf ts), ts, a)
    | some .value => .ok (absent (markOf ts), ts, a)
    | some .blockEnd => .ok (absent (markOf ts), ts, a)
    | _ => read hs n true true ts a

/-- The entries of a block mapping (last first so far). -/
def readBlockMapping (hs : Handles) :
    (fuel : Nat) → Mark → List Token → Anchors → List (Node × Node) → Reading
  | 0, _, ts, _, _ => unexpected ts
  | n + 1, m, ts, a, entries =>
    match ts with
    | ⟨.blockEnd, _⟩ :: ts => .ok (.mapping m entries.reverse, ts, a)
    | ⟨.key, _⟩ :: ts => do
      let (k, ts, a) ← readBlockPart hs n ts a
      match ts with
      | ⟨.value, _⟩ :: ts => do
        let (v, ts, a) ← readBlockPart hs n ts a
        readBlockMapping hs n m ts a ((k, v) :: entries)
      | ts => readBlockMapping hs n m ts a ((k, absent (markOf ts)) :: entries)
    | ts => unexpected ts

/-- The items of a flow sequence. An item with a key mark or a colon is a mapping of one entry;
    after a key mark with no key the next token is passed over. -/
def readFlowSequence (hs : Handles) :
    (fuel : Nat) → Mark → (first : Bool) → List Token → Anchors → List Node → Reading
  | 0, _, _, ts, _, _ => unexpected ts
  | n + 1, m, first, ts, a, items =>
    match ts with
    | ⟨.flowSequenceEnd, _⟩ :: ts => .ok (.sequence m items.reverse, ts, a)
    | ts =>
      if !first && headLexeme? ts ≠ some .flowEntry then unexpected ts
      else
        let ts := if first then ts else ts.drop 1
        match ts with
        | ⟨.flowSequenceEnd, _⟩ :: ts => .ok (.sequence m items.reverse, ts, a)
        | ⟨.key, e⟩ :: ts => do
          let (k, ts, a) ← match headLexeme? ts with
            | some .value => pure (absent (markOf ts), ts.drop 1, a)
            | some .flowEntry => pure (absent (markOf ts), ts.drop 1, a)
            | some .flowSequenceEnd => pure (absent (markOf ts), ts.drop 1, a)
            | _ => read hs n false false ts a
          let (v, ts, a) ← match ts with
            | ⟨.value, _⟩ :: ts =>
              match headLexeme? ts with
              | some .flowEntry => pure (absent (markOf ts), ts, a)
              | some .flowSequenceEnd => pure (absent (markOf ts), ts, a)
              | _ => read hs n false false ts a
            | ts => pure (absent (markOf ts), ts, a)
          readFlowSequence hs n m false ts a (.mapping e [(k, v)] :: items)
        | ts => do
          let (x, ts, a) ← read hs n false false ts a
          readFlowSequence hs n m false ts a (x :: items)

/-- The entries of a flow mapping; one without a colon has no value. -/
def readFlowMapping (hs : Handles) :
    (fuel : Nat) → Mark → (first : Bool) → List Token → Anchors → List (Node × Node) → Reading
  | 0, _, _, ts, _, _ => unexpected ts
  | n + 1, m, first, ts, a, entries =>
    match ts with
    | ⟨.flowMappingEnd, _⟩ :: ts => .ok (.mapping m entries.reverse, ts, a)
    | ts =>
      if !first && headLexeme? ts ≠ some .flowEntry then unexpected ts
      else
        let ts := if first then ts else ts.drop 1
        match ts with
        | ⟨.flowMappingEnd, _⟩ :: ts => .ok (.mapping m entries.reverse, ts, a)
        | ⟨.key, _⟩ :: ts => do
          let (k, ts, a) ← match headLexeme? ts with
            | some .value => pure (absent (markOf ts), ts, a)
            | some .flowEntry => pure (absent (markOf ts), ts, a)
            | some .flowMappingEnd => pure (absent (markOf ts), ts, a)
            | _ => read hs n false false ts a
          let (v, ts, a) ← match ts with
            | ⟨.value, _⟩ :: ts =>
              match headLexeme? ts with
              | some .flowEntry => pure (absent (markOf ts), ts, a)
              | some .flowMappingEnd => pure (absent (markOf ts), ts, a)
              | _ => read hs n false false ts a
            | ts => pure (absent (markOf ts), ts, a)
          readFlowMapping hs n m false ts a ((k, v) :: entries)
        | ts => do
          let (k, ts, a) ← read hs n false false ts a
          readFlowMapping hs n m false ts a ((k, absent (markOf ts)) :: entries)

end

end Node

namespace Document

/-- The directives in front of a document: at most one version, 1.1 or 1.2, and each handle at
    most once. -/
def readDirectives : List Token → (version : Bool) → Node.Handles →
    Except SyntaxError (Node.Handles × List Token)
  | ⟨.directive (.version major minor), m⟩ :: ts, version, hs =>
    if version || major ≠ 1 || (minor ≠ 1 && minor ≠ 2) then .error ⟨.badDirective, m⟩
    else readDirectives ts true hs
  | ⟨.directive (.tag handle target), m⟩ :: ts, version, hs =>
    if (hs.lookup handle).isSome then .error ⟨.badDirective, m⟩
    else readDirectives ts version (hs ++ [(handle, target)])
  | ts, _, hs => .ok (hs ++ Node.defaultHandles, ts)

/-- What may follow the one document: marks of its end. -/
def ends : List Token → Bool
  | ⟨.documentEnd, _⟩ :: ts => ends ts
  | [⟨.streamEnd, _⟩] => true
  | _ => false

/-- What may not start the content of a document. -/
def isContentEnd : Option Lexeme → Bool
  | some (.directive _) => true
  | some .documentStart => true
  | some .documentEnd => true
  | some .streamEnd => true
  | _ => false

def readContent (hs : Node.Handles) (explicit : Bool) (ts : List Token) :
    Except SyntaxError Document := do
  let (root, ts, a) ←
    if explicit && isContentEnd (Node.headLexeme? ts) then
      pure (Node.absent (Node.markOf ts), ts, Node.Anchors.empty)
    else Node.read hs (3 * ts.length + 3) true false ts .empty
  if ends ts then return ⟨some root, a.definitions⟩
  else throw ⟨.moreThanOneDocument, Node.markOf ts⟩

/-- The one document of a sequence of tokens, or none if there is nothing but the end. -/
def ofTokens (ts : List Token) : Except SyntaxError Document :=
  match ts with
  | [⟨.streamEnd, _⟩] => .ok ⟨none, []⟩
  | ts =>
    match Node.headLexeme? ts with
    | some (.directive _) => explicitly ts
    | some .documentStart => explicitly ts
    | _ => readContent Node.defaultHandles false ts
where
  explicitly (ts : List Token) : Except SyntaxError Document := do
    let (hs, ts) ← readDirectives ts false []
    match ts with
    | ⟨.documentStart, _⟩ :: ts => readContent hs true ts
    | ts => Node.unexpected ts

/-- The one document of a text. -/
def ofText (s : List Char) : Except SyntaxError Document := do ofTokens (← Token.scan s)

end Document

end ScopedEngine.Yaml
