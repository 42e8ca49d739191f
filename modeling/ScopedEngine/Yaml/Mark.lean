/-
  ScopedEngine.Yaml.Mark — places in a text, and the characters that give it lines and words.

  `Source.ofChars?` refuses characters that YAML does not carry and writes every line break of
  the forms CR LF, CR, LF and NEL as one LF; LS and PS stay. After it a line break is one
  character, and the distance of two places on a line is the difference of their columns in
  characters, and of their offsets in bytes.
-/

namespace ScopedEngine.Yaml

/-- A place: line and column, both from zero, and how many bytes stand before it on the line. -/
structure Mark where
  line : Nat
  column : Nat
  offset : Nat
  deriving DecidableEq, Repr

namespace Mark

def start : Mark := ⟨0, 0, 0⟩

/-- The place after `c`, on the same line. -/
def next (m : Mark) (c : Char) : Mark := ⟨m.line, m.column + 1, m.offset + c.utf8Size⟩

/-- The place after `n` characters of one byte each. -/
def advance (m : Mark) (n : Nat) : Mark := ⟨m.line, m.column + n, m.offset + n⟩

/-- The start of the next line. -/
def nextLine (m : Mark) : Mark := ⟨m.line + 1, 0, 0⟩

end Mark

/-- What is still to be read, and where it stands. -/
structure Cursor where
  rest : List Char
  mark : Mark
  deriving DecidableEq, Repr

def isBreak (c : Char) : Bool := c = '\n' || c = '\u2028' || c = '\u2029'

def isBlank (c : Char) : Bool := c = ' ' || c = '\t'

/-- Whether a word cannot go on here: a blank, a line break or the end. -/
def atWordEnd : List Char → Bool
  | [] => true
  | c :: _ => isBlank c || isBreak c

/-- `---` or `...` as a word. -/
def atDocumentMark : List Char → Bool
  | '-' :: '-' :: '-' :: s => atWordEnd s
  | '.' :: '.' :: '.' :: s => atWordEnd s
  | _ => false

/-- Letters, digits, `_` and `-`: the characters of names. -/
def isNameChar (c : Char) : Bool := c.isAlphanum || c = '_' || c = '-'

/-- Why a text is not one YAML document. -/
inductive Fault where
  | forbiddenCharacter
  | noTokenStart
  | tabIndentation
  | unterminatedQuote
  | badEscape
  | documentMarkInQuote
  | colonInFlow
  | keyWithoutColon
  | notAllowedHere
  | badDirective
  | badAnchor
  | badTag
  | badBlockHeader
  | unexpectedToken
  | undefinedTagHandle
  | undefinedAnchor
  | moreThanOneDocument
  deriving DecidableEq, Repr

structure SyntaxError where
  fault : Fault
  mark : Mark
  deriving DecidableEq, Repr

namespace Source

/-- The characters that a YAML stream may hold. -/
def isAllowed (c : Char) : Bool :=
  let n := c.toNat
  n = 0x09 || n = 0x0A || n = 0x0D || (0x20 ≤ n && n ≤ 0x7E) || n = 0x85
    || (0xA0 ≤ n && n ≤ 0xD7FF) || (0xE000 ≤ n && n ≤ 0xFFFD) || 0x10000 ≤ n

/-- Every break but LS and PS as one LF. -/
def unifyBreaks : List Char → List Char
  | [] => []
  | '\r' :: '\n' :: s => '\n' :: unifyBreaks s
  | c :: s => (if c = '\r' || c = '\u0085' then '\n' else c) :: unifyBreaks s

def ofChars? (s : List Char) : Except SyntaxError (List Char) :=
  if s.all isAllowed then .ok (unifyBreaks s) else .error ⟨.forbiddenCharacter, .start⟩

end Source

end ScopedEngine.Yaml
