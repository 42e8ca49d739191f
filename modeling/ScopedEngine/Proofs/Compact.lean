/-
  ScopedEngine.Proofs.Compact — compact JSON is scanned and read as the tree it was written from.

  A text `Stands` for tokens if scanning it where a value may stand adds them; tokens `Spell` a
  tree if the reader takes them for it, whatever follows. A `Value` is a text with its tokens and
  its tree: a text between quotes is one (`Value.string`), and so is an object of values
  (`Value.object`), if its names are short enough for keys. Main result:
  - `ofText_object`: the text of an object is one document without anchors, which is its tree.
-/

import ScopedEngine.Proofs.Layouts
import ScopedEngine.Proofs.Scanning

namespace ScopedEngine.Yaml

open Config

/-! ## Scanning -/

namespace Token

/-- Where a value may stand, scanning the text adds the tokens. -/
def Stands (t : List Char) (ls : List Lexeme) : Prop :=
  ∀ {s : State} (m : Mark), AtValue s →
    ∃ s', Scans s m t s' ∧ AtValue s' ∧ Leads s s.outer ls s'

theorem stands_string {t : List Char} (ht : ∀ c ∈ t, Carried c) :
    Stands (Json.string t) [.scalar t .quoted] :=
  fun m h => scans_value h m ht

end Token

/-! ## Reading -/

open Token (Stands)

/-- Tokens by their lexemes: the first one and the others. -/
theorem exists_tokens_cons {ts : List Token} {l : Lexeme} {ls : List Lexeme}
    (h : ts.map (·.lexeme) = l :: ls) :
    ∃ m ts', ts = ⟨l, m⟩ :: ts' ∧ ts'.map (·.lexeme) = ls := by
  obtain ⟨⟨l', m⟩, ts', rfl, rfl, hts'⟩ := List.map_eq_cons_iff.mp h
  exact ⟨m, ts', rfl, hts'⟩

/-- The tree of a text between quotes. -/
def quoted (t : List Char) : Node := .scalar .start ⟨t, .quoted, none⟩

/-- The reader takes the tokens for the tree, whatever follows them. -/
structure Spells (ls : List Lexeme) (x : Node) : Prop where
  head : ∃ l ls', ls = l :: ls' ∧ l ≠ .flowEntry ∧ l ≠ .flowMappingEnd
  reads : ∀ (hs : Node.Handles) (block indentless : Bool) (n : Nat) (ts us : List Token)
    (a : Node.Anchors), ts.map (·.lexeme) = ls → ls.length ≤ n →
      ∃ y, y.bare = x ∧ Node.read hs n block indentless (ts ++ us) a = .ok (y, us, a)

theorem spells_string (t : List Char) : Spells [.scalar t .quoted] (quoted t) where
  head := ⟨_, _, rfl, by simp⟩
  reads := by
    intro hs block indentless n ts us a hts hn
    obtain ⟨m, ts', rfl, hts'⟩ := exists_tokens_cons hts
    obtain rfl := List.map_eq_nil_iff.mp hts'
    cases n with
    | zero => simp at hn
    | succ n =>
      refine ⟨.scalar m ⟨t, .quoted, none⟩, rfl, ?_⟩
      unfold Node.read
      rfl

/-- The tokens in front of an entry: a comma, unless it is the first one. -/
def separator (first : Bool) (m : Mark) : List Token := if first then [] else [⟨.flowEntry, m⟩]

/-- One entry more is read, up to what follows it. -/
theorem readFlowMapping_entry {ls : List Lexeme} {x : Node} (hx : Spells ls x) (name : List Char)
    (hs : Node.Handles) {n : Nat} (m m₁ m₂ m₃ m₄ : Mark) (first : Bool) {vs : List Token}
    (us : List Token) (a : Node.Anchors) (es : List (Node × Node))
    (hvs : vs.map (·.lexeme) = ls) (hn : ls.length ≤ n) :
    ∃ k v, k.bare = quoted name ∧ v.bare = x ∧
      Node.readFlowMapping hs (n + 1) m first (separator first m₁ ++ ⟨.key, m₂⟩ ::
        ⟨.scalar name .quoted, m₃⟩ :: ⟨.value, m₄⟩ :: (vs ++ us)) a es =
          Node.readFlowMapping hs n m false us a ((k, v) :: es) := by
  obtain ⟨l, ls', rfl, hl, hl'⟩ := hx.head
  have hn' : [Lexeme.scalar name .quoted].length ≤ n := by
    rw [List.length_cons] at hn
    simp only [List.length_singleton]
    omega
  obtain ⟨k, hk, hread⟩ := (spells_string name).reads hs false false n
    [⟨.scalar name .quoted, m₃⟩] (⟨.value, m₄⟩ :: (vs ++ us)) a rfl hn'
  obtain ⟨v, hv, hread'⟩ := hx.reads hs false false n vs us a hvs hn
  obtain ⟨m₅, ws, rfl, -⟩ := exists_tokens_cons hvs
  refine ⟨k, v, hk, hv, ?_⟩
  rw [List.singleton_append] at hread
  rw [List.cons_append] at hread hread' ⊢
  have hafter : Node.readFlowMapping hs (n + 1) m first (separator first m₁ ++ ⟨.key, m₂⟩ ::
      ⟨.scalar name .quoted, m₃⟩ :: ⟨.value, m₄⟩ :: ⟨l, m₅⟩ :: (ws ++ us)) a es =
      (Node.read hs n false false (⟨l, m₅⟩ :: (ws ++ us)) a >>= fun r =>
        Node.readFlowMapping hs n m false r.2.1 r.2.2 ((k, r.1) :: es)) := by
    rw [Node.readFlowMapping.eq_def]
    cases first
    all_goals
      simp only [separator, Bool.false_eq_true, ↓reduceIte, List.cons_append, List.nil_append,
        Bool.not_false, Bool.not_true, Node.headLexeme?, ne_eq, not_true_eq_false, decide_false,
        Bool.and_false, Option.some.injEq, reduceCtorEq, not_false_eq_true, decide_true,
        Bool.and_true, List.drop_succ_cons, List.drop_zero, bind, Except.bind, hread]
      split
      · next heq => exact absurd (Option.some.inj heq) hl
      · next heq => exact absurd (Option.some.inj heq) hl'
      · rfl
  rw [hafter, hread']
  rfl

/-- A name that can stand as a key. -/
structure Name where
  text : String
  carried : ∀ c ∈ text.toList, Carried c
  short : Token.width (Json.string text.toList) ≤ 1024

/-- What JSON can hold: as it is written, its tokens and its tree. -/
structure Value where
  text : List Char
  lexemes : List Lexeme
  node : Node
  stands : Stands text lexemes
  spells : Spells lexemes node
  kept : ∀ c ∈ text, Kept c

variable {ms : List (Name × Value)}

/-- The tokens of a member. -/
def entryLexemes (x : Name × Value) : List Lexeme :=
  .key :: .scalar x.1.text.toList .quoted :: .value :: x.2.lexemes

/-- The entry of a member. -/
def entry (x : Name × Value) : Node × Node := (quoted x.1.text.toList, x.2.node)

/-- One member more is read, up to what follows it. -/
theorem readFlowMapping_member (x : Name × Value) (hs : Node.Handles) {n : Nat} (m : Mark)
    (first : Bool) {ts : List Token} (us : List Token) (a : Node.Anchors) (es : List (Node × Node))
    (hts : ts.map (·.lexeme) = (if first then [] else [.flowEntry]) ++ entryLexemes x)
    (hn : ts.length ≤ n + 1) :
    ∃ e : Node × Node, (e.1.bare, e.2.bare) = entry x ∧
      Node.readFlowMapping hs (n + 1) m first (ts ++ us) a es =
        Node.readFlowMapping hs n m false us a (e :: es) := by
  obtain ⟨m₁, ts', rfl, hts'⟩ : ∃ m₁ ts', ts = separator first m₁ ++ ts' ∧
      ts'.map (·.lexeme) = entryLexemes x := by
    cases first with
    | true => exact ⟨.start, ts, rfl, hts⟩
    | false => exact exists_tokens_cons hts
  obtain ⟨m₂, ts₂, rfl, hts₂⟩ := exists_tokens_cons hts'
  obtain ⟨m₃, ts₃, rfl, hts₃⟩ := exists_tokens_cons hts₂
  obtain ⟨m₄, vs, rfl, hvs⟩ := exists_tokens_cons hts₃
  have hn' : x.2.lexemes.length ≤ n := by
    rw [← hvs, List.length_map]
    simp only [List.length_append, List.length_cons] at hn
    omega
  obtain ⟨k, v, hk, hv, hread⟩ :=
    readFlowMapping_entry x.2.spells x.1.text.toList hs m m₁ m₂ m₃ m₄ first us a es hvs hn'
  refine ⟨(k, v), by rw [hk, hv, entry], ?_⟩
  rw [List.append_assoc]
  exact hread

/-- The members that are left, up to the closing brace. -/
theorem readFlowMapping_rest (hs : Node.Handles) (m : Mark) (us : List Token) (a : Node.Anchors)
    {n : Nat} {ts : List Token} (es : List (Node × Node))
    (hts : ts.map (·.lexeme) =
      (ms.flatMap fun x => .flowEntry :: entryLexemes x) ++ [.flowMappingEnd])
    (hn : ts.length ≤ n) :
    ∃ es', Node.bareEntries es' = ms.map entry ∧
      Node.readFlowMapping hs n m false (ts ++ us) a es =
        .ok (.mapping m (es.reverse ++ es'), us, a) := by
  induction ms generalizing n ts es with
  | nil =>
    obtain ⟨m₁, ts', rfl, hts'⟩ := exists_tokens_cons hts
    obtain rfl := List.map_eq_nil_iff.mp hts'
    cases n with
    | zero => simp at hn
    | succ n =>
      refine ⟨[], rfl, ?_⟩
      rw [Node.readFlowMapping.eq_def, List.append_nil]
      rfl
  | cons x ms ih =>
    rw [List.flatMap_cons, List.append_assoc] at hts
    obtain ⟨us₁, us₂, rfl, hus₁, hus₂⟩ := List.map_eq_append_iff.mp hts
    have hpos : us₁ ≠ [] := by
      rintro rfl
      simp at hus₁
    have hlen : 0 < us₁.length := List.length_pos_iff.mpr hpos
    rw [List.length_append] at hn
    cases n with
    | zero => omega
    | succ n =>
      have hn₁ : us₁.length ≤ n + 1 := by omega
      have hn₂ : us₂.length ≤ n := by omega
      obtain ⟨e, he, hread⟩ := readFlowMapping_member x hs m false (us₂ ++ us) a es hus₁ hn₁
      obtain ⟨es', hes', hrest⟩ := ih (e :: es) hus₂ hn₂
      refine ⟨e :: es', ?_, ?_⟩
      · rw [Node.bareEntries, hes', List.map_cons, ← he]
      · rw [List.append_assoc, hread, hrest]
        simp

/-! ## Objects -/

theorem intercalate_cons {α : Type} (sep x : List α) (xs : List (List α)) :
    sep.intercalate (x :: xs) = x ++ xs.flatMap (sep ++ ·) := by
  induction xs generalizing x with
  | nil => simp
  | cons y ys ih =>
    rw [List.intercalate_cons_cons, ih, List.flatMap_cons, List.append_assoc, List.append_assoc]

/-- An object of members, as it is written. -/
def objectText (ms : List (Name × Value)) : List Char :=
  Json.object (ms.map fun x => (x.1.text, x.2.text))

def objectLexemes (ms : List (Name × Value)) : List Lexeme :=
  .flowMappingStart :: (List.intercalate [.flowEntry] (ms.map entryLexemes) ++ [.flowMappingEnd])

def objectNode (ms : List (Name × Value)) : Node := .mapping .start (ms.map entry)

theorem readFlowMapping_object (hs : Node.Handles) (m : Mark) (us : List Token) (a : Node.Anchors)
    {n : Nat} {ts : List Token}
    (hts : ts.map (·.lexeme) =
      List.intercalate [.flowEntry] (ms.map entryLexemes) ++ [.flowMappingEnd])
    (hn : ts.length ≤ n) :
    ∃ es, Node.bareEntries es = ms.map entry ∧
      Node.readFlowMapping hs n m true (ts ++ us) a [] = .ok (.mapping m es, us, a) := by
  cases n with
  | zero =>
    obtain rfl := List.length_eq_zero_iff.mp (Nat.le_zero.mp hn)
    simp at hts
  | succ n =>
    cases ms with
    | nil =>
      obtain ⟨m₁, ts', rfl, hts'⟩ := exists_tokens_cons hts
      obtain rfl := List.map_eq_nil_iff.mp hts'
      refine ⟨[], rfl, ?_⟩
      rw [Node.readFlowMapping.eq_def]
      rfl
    | cons x ms =>
      rw [List.map_cons, intercalate_cons, List.flatMap_map, List.append_assoc] at hts
      obtain ⟨us₁, us₂, rfl, hus₁, hus₂⟩ := List.map_eq_append_iff.mp hts
      have hpos : 0 < us₁.length := by
        rw [← List.length_map (f := (·.lexeme)), hus₁]
        exact Nat.succ_pos _
      rw [List.length_append] at hn
      have hn₁ : us₁.length ≤ n + 1 := by omega
      have hn₂ : us₂.length ≤ n := by omega
      obtain ⟨e, he, hread⟩ := readFlowMapping_member x hs m true (us₂ ++ us) a [] hus₁ hn₁
      obtain ⟨es, hes, hrest⟩ := readFlowMapping_rest hs m us a [e] hus₂ hn₂
      refine ⟨e :: es, ?_, ?_⟩
      · rw [Node.bareEntries, hes, List.map_cons, ← he]
      · rw [List.append_assoc, hread, hrest]
        rfl

theorem spells_object (ms : List (Name × Value)) : Spells (objectLexemes ms) (objectNode ms) where
  head := ⟨_, _, rfl, by simp⟩
  reads := by
    intro hs block indentless n ts us a hts hn
    obtain ⟨m, ts', rfl, hts'⟩ := exists_tokens_cons hts
    rw [← hts, List.length_map, List.length_cons] at hn
    cases n with
    | zero => omega
    | succ n =>
      have hn' : ts'.length ≤ n := by omega
      obtain ⟨es, hes, hread⟩ := readFlowMapping_object hs m us a hts' hn'
      refine ⟨.mapping m es, by rw [Node.bare, hes, objectNode], ?_⟩
      rw [Node.read.eq_def]
      show (Node.readFlowMapping hs n m true (ts' ++ us) a []).map _ = _
      rw [hread]
      rfl

namespace Token

variable {s : State}

/-- A member as it is written. -/
def entryText (x : Name × Value) : List Char :=
  Json.string x.1.text.toList ++ ':' :: x.2.text

theorem objectText_eq (ms : List (Name × Value)) :
    objectText ms = ['\x7b'] ++ (List.intercalate [','] (ms.map entryText) ++ ['\x7d']) := by
  rw [objectText, Json.object, List.map_map, List.append_assoc]
  rfl

/-- Where an entry may start, a member. -/
theorem scans_member (x : Name × Value) (m : Mark) (h : AtKey s) :
    ∃ s', Scans s m (entryText x) s' ∧ AtValue s' ∧ Leads s s.outer (entryLexemes x) s' := by
  obtain ⟨s₁, hscan₁, hs₁, hl₁⟩ := scans_name h m x.1.carried x.1.short
  obtain ⟨s₂, hscan₂, hs₂, hl₂⟩ := x.2.stands _ hs₁
  have hscan := hscan₁.append hscan₂
  rw [List.append_assoc, List.singleton_append] at hscan
  exact ⟨s₂, hscan, hs₂, hl₁.trans hl₂⟩

/-- The members that are left, each after a comma. -/
theorem scans_rest (m : Mark) (h : AtValue s) :
    ∃ s', Scans s m (ms.flatMap fun x => ',' :: entryText x) s' ∧ AtValue s' ∧
      Leads s s.outer (ms.flatMap fun x => .flowEntry :: entryLexemes x) s' := by
  induction ms generalizing s m with
  | nil => exact ⟨s, .nil s m, h, .refl s⟩
  | cons x ms ih =>
    obtain ⟨s₁, hscan₁, hs₁, hl₁⟩ := scans_comma h m
    obtain ⟨s₂, hscan₂, hs₂, hl₂⟩ := scans_member x _ hs₁
    obtain ⟨s₃, hscan₃, hs₃, hl₃⟩ := ih _ hs₂
    exact ⟨s₃, (hscan₁.append hscan₂).append hscan₃, hs₃, (hl₁.trans hl₂).trans hl₃⟩

/-- All members, up to the closing brace. -/
theorem scans_members (ms : List (Name × Value)) (m : Mark) (h : AtKey s) :
    ∃ s', Scans s m (List.intercalate [','] (ms.map entryText)) s' ∧ Flowing s' ∧ s'.key = none ∧
      Leads s s.outer (List.intercalate [.flowEntry] (ms.map entryLexemes)) s' := by
  cases ms with
  | nil => exact ⟨s, .nil s m, h.toFlowing, h.noKey, .refl s⟩
  | cons x ms =>
    obtain ⟨s₁, hscan₁, hs₁, hl₁⟩ := scans_member x m h
    obtain ⟨s₂, hscan₂, hs₂, hl₂⟩ := scans_rest _ hs₁
    refine ⟨s₂, ?_, hs₂.toFlowing, hs₂.noKey, ?_⟩
    · rw [List.map_cons, intercalate_cons, List.flatMap_map]
      exact hscan₁.append hscan₂
    · rw [List.map_cons, intercalate_cons, List.flatMap_map]
      exact hl₁.trans hl₂

theorem stands_object (ms : List (Name × Value)) : Stands (objectText ms) (objectLexemes ms) := by
  intro s m h
  obtain ⟨s₁, hscan₁, hs₁, hl₁⟩ := scans_open h m
  obtain ⟨s₂, hscan₂, hs₂, hk₂, hl₂⟩ := scans_members ms _ hs₁
  have hl := hl₁.trans hl₂
  obtain ⟨s₃, hscan₃, hallowed, hk₃, hout, hlex, hind, hinds⟩ := scans_close hs₂ hk₂ _ hl.outer
  have hk : s₃.key = none := hk₃.none
  have hflow : Flowing s₃ :=
    ⟨⟨hk ▸ optional_none, hout.optional h.outer⟩, hout.ne_nil h.inside⟩
  refine ⟨s₃, ?_, ⟨hflow, hk, hallowed⟩, ⟨?_, hout, hind.trans hl.indent, hinds.trans hl.indents⟩⟩
  · rw [objectText_eq]
    exact hscan₁.append (hscan₂.append hscan₃)
  · rw [hlex, hl.lexemes, objectLexemes]
    simp

/-! ## Whole texts -/

theorem scan_object (ms : List (Name × Value)) (hkept : ∀ c ∈ objectText ms, Kept c) :
    ∃ ts, scan (objectText ms) = .ok ts ∧
      ts.map (·.lexeme) = objectLexemes ms ++ [.streamEnd] := by
  obtain ⟨s₂, hscan₂, hs₂, hk₂, hl₂⟩ := scans_members ms (Mark.start.next '\x7b') atKey_opened
  obtain ⟨s₃, hscan₃, -, hk₃, hout, hlex, hind, hinds⟩ := scans_close hs₂ hk₂ _ hl₂.outer
  have hout₃ : s₃.outer = [] := List.forall₂_nil_left_iff.mp hout
  have hloose : Loose s₃ := by
    refine ⟨hk₃.optional (atKey_opened.outer _ (List.mem_singleton_self _)), ?_⟩
    rw [hout₃]
    simp
  have hmembers := (hscan₂.append hscan₃) []
  rw [List.append_nil] at hmembers
  obtain ⟨n, hn, hscan⟩ := hmembers _ (Nat.lt_succ_self _)
  obtain ⟨ts, hts, hlexemes⟩ := scanFrom_end hn hloose hout₃ (hind.trans hl₂.indent)
    (hinds.trans hl₂.indents) ((Mark.start.next '\x7b').over _)
  refine ⟨ts, ?_, ?_⟩
  · rw [scan, ofChars?_kept hkept]
    show scanFrom _ _ _ = _
    rw [objectText_eq, List.singleton_append, List.length_cons, scanFrom_open, hscan, hts]
  · rw [hlexemes, hlex, hl₂.lexemes, objectLexemes]
    simp [opened, State.emit, State.init]

end Token

theorem kept_object (ms : List (Name × Value)) : ∀ c ∈ objectText ms, Kept c := by
  have hopen : Kept '\x7b' := kept_ascii (by decide) (by decide)
  have hclose : Kept '\x7d' := kept_ascii (by decide) (by decide)
  have hcomma : Kept ',' := kept_ascii (by decide) (by decide)
  have hcolon : Kept ':' := kept_ascii (by decide) (by decide)
  have hentry (x : Name × Value) : ∀ c ∈ Token.entryText x, Kept c := by
    refine List.forall_mem_append.mpr ⟨kept_string x.1.carried, ?_⟩
    exact List.forall_mem_cons.mpr ⟨hcolon, x.2.kept⟩
  have hmembers : ∀ c ∈ List.intercalate [','] (ms.map Token.entryText), Kept c := by
    cases ms with
    | nil => simp
    | cons x ms =>
      rw [List.map_cons, intercalate_cons, List.flatMap_map]
      refine List.forall_mem_append.mpr ⟨hentry x, fun c hc => ?_⟩
      obtain ⟨y, -, hc⟩ := List.mem_flatMap.mp hc
      rcases List.mem_cons.mp hc with rfl | hc
      · exact hcomma
      · exact hentry y c hc
  rw [Token.objectText_eq]
  simp only [List.forall_mem_append, List.forall_mem_singleton]
  exact ⟨hopen, hmembers, hclose⟩

namespace Value

/-- A text between quotes. -/
def string (t : List Char) (ht : ∀ c ∈ t, Carried c) : Value where
  text := Json.string t
  lexemes := [.scalar t .quoted]
  node := quoted t
  stands := Token.stands_string ht
  spells := spells_string t
  kept := kept_string ht

def object (ms : List (Name × Value)) : Value where
  text := objectText ms
  lexemes := objectLexemes ms
  node := objectNode ms
  stands := Token.stands_object ms
  spells := spells_object ms
  kept := kept_object ms

end Value

/-- The text of an object is one document without anchors: its tree, somewhere in the text. -/
theorem ofText_object (ms : List (Name × Value)) :
    ∃ root, root.bare = objectNode ms ∧
      Document.ofText (objectText ms) = .ok ⟨some root, []⟩ := by
  obtain ⟨ts, hscan, hts⟩ := Token.scan_object ms (kept_object ms)
  obtain ⟨us, vs, rfl, hus, hvs⟩ := List.map_eq_append_iff.mp hts
  obtain ⟨m, ws, rfl, hws⟩ := exists_tokens_cons hvs
  obtain rfl := List.map_eq_nil_iff.mp hws
  have hn : (objectLexemes ms).length ≤ 3 * (us ++ [(⟨.streamEnd, m⟩ : Token)]).length + 3 := by
    rw [← hus, List.length_map, List.length_append]
    omega
  obtain ⟨root, hroot, hread⟩ := (spells_object ms).reads Node.defaultHandles true false _ us
    [⟨.streamEnd, m⟩] .empty hus hn
  refine ⟨root, hroot, ?_⟩
  obtain ⟨m', us', rfl, hus'⟩ := exists_tokens_cons hus
  have hcontent : Document.readContent Node.defaultHandles false
      (⟨.flowMappingStart, m'⟩ :: us' ++ [⟨.streamEnd, m⟩]) = .ok ⟨some root, []⟩ := by
    unfold Document.readContent
    simp only [Bool.false_and]
    show (Node.read _ _ _ _ _ _ >>= _) = _
    rw [hread]
    rfl
  have htokens : Document.ofTokens (⟨.flowMappingStart, m'⟩ :: us' ++ [⟨.streamEnd, m⟩]) =
      .ok ⟨some root, []⟩ := by
    unfold Document.ofTokens
    split
    · next heq =>
      rw [List.cons_append] at heq
      cases heq
    · exact hcontent
  rw [Document.ofText, hscan]
  exact htokens

end ScopedEngine.Yaml
