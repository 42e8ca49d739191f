/-
  ScopedEngine.Proofs.Anchors — every alias of a document stands for a node of the document.

  While a node is read, the slots of the anchors in front of it and around it are being defined;
  `Good P` says of what is read that its aliases have slots that are defined by then or among
  those (`P`). `Level` is that for all seven readers, by induction on the fuel; completing a
  definition moves its slot from the second kind to the first (`Good.anchored`). Main result:
  - `resolve_isOwn`: whatever stands in a document stands for a scalar, a sequence or a mapping.
-/

import Mathlib.Data.List.Basic
import ScopedEngine.Yaml.Node

namespace ScopedEngine.Yaml

/-! ## What is known of the aliases read so far -/

/-- Every alias inside a node has a slot with this property. -/
inductive Node.Refers (P : Nat → Prop) : Node → Prop
  | scalar (m : Mark) (s : Scalar) : Refers P (.scalar m s)
  | sequence (m : Mark) {items : List Node} (h : ∀ x ∈ items, Refers P x) :
      Refers P (.sequence m items)
  | mapping (m : Mark) {es : List (Node × Node)} (hk : ∀ e ∈ es, Refers P e.1)
      (hv : ∀ e ∈ es, Refers P e.2) : Refers P (.mapping m es)
  | aliasOf (m : Mark) {slot : Nat} (h : P slot) : Refers P (.aliasOf m slot)

namespace Node

theorem Refers.mono {P Q : Nat → Prop} (hPQ : ∀ i, P i → Q i) {n : Node} (h : Refers P n) :
    Refers Q n := by
  induction h with
  | scalar m s => exact .scalar m s
  | sequence m _ ih => exact .sequence m ih
  | mapping m _ _ ihk ihv => exact .mapping m ihk ihv
  | aliasOf m h => exact .aliasOf m (hPQ _ h)

/-- A node that is no alias. -/
def IsOwn : Node → Prop
  | .aliasOf _ _ => False
  | _ => True

namespace Anchors

def Defined (a : Anchors) (slot : Nat) : Prop := ∃ x ∈ a.definitions, x.slot = slot

/-- Names and aliases have slots that are defined, or are being defined (`P`). -/
structure Sound (P : Nat → Prop) (a : Anchors) : Prop where
  names : ∀ x ∈ a.names, P x.2 ∨ a.Defined x.2
  refers : ∀ x ∈ a.definitions, x.node.Refers fun i => P i ∨ a.Defined i
  own : ∀ x ∈ a.definitions, x.node.IsOwn

end Anchors

/-- Every alias in the node has a slot that is defined, or is being defined. -/
def Known (P : Nat → Prop) (a : Anchors) (x : Node) : Prop := x.Refers fun i => P i ∨ a.Defined i

variable {P : Nat → Prop} {a a' : Anchors} {x : Node}

theorem known_absent (m : Mark) : Known P a (absent m) := .scalar m _

/-- What a part of the text is read as: the names stay sound, and the node is known by then. -/
structure Extends (P : Nat → Prop) (a : Anchors) (x : Node) (a' : Anchors) : Prop where
  sound : a'.Sound P
  grows : ∀ i, a.Defined i → a'.Defined i
  known : Known P a' x

theorem Extends.lift (h : Extends P a x a') {y : Node} (hy : Known P a y) : Known P a' y :=
  hy.mono fun i hi => hi.imp_right (h.grows i)

/-- Whatever is read extends what was there, by a node of some kind. -/
def Good (P : Nat → Prop) (a : Anchors) (Q : Node → Prop) (r : Reading) : Prop :=
  ∀ x ts a', r = .ok (x, ts, a') → Extends P a x a' ∧ Q x

namespace Good

variable {Q Q' : Node → Prop} {ts : List Token}

theorem unexpected (ts : List Token) : Good P a Q (unexpected ts) := by
  intro x ts' a' h
  cases ts <;> cases h

theorem ok (ha : a.Sound P) (hx : Known P a x) (hq : Q x) : Good P a Q (.ok (x, ts, a)) := by
  intro x' ts' a' h
  cases h
  exact ⟨⟨ha, fun _ => id, hx⟩, hq⟩

theorem bind {r : Reading} {f : Node × List Token × Anchors → Reading} (hr : Good P a Q r)
    (hf : ∀ y ts₁ a₁, Extends P a y a₁ → Q y → Good P a₁ Q' (f (y, ts₁, a₁))) :
    Good P a Q' (r >>= f) := by
  intro x ts' a' h
  cases r with
  | error e => cases h
  | ok y =>
    obtain ⟨y, ts₁, a₁⟩ := y
    obtain ⟨hy, hq⟩ := hr y ts₁ a₁ rfl
    obtain ⟨hx, hq'⟩ := hf y ts₁ a₁ hy hq x ts' a' h
    exact ⟨⟨hx.sound, fun i hi => hx.grows i (hy.grows i hi), hx.known⟩, hq'⟩

theorem bindOther {β : Type} {e : Except SyntaxError β} {f : β → Reading}
    (hf : ∀ y, Good P a Q (f y)) : Good P a Q (e >>= f) := by
  intro x ts' a' h
  cases e with
  | error e => cases h
  | ok y => exact hf y x ts' a' h

end Good

variable {hs : Handles} {n : Nat}

/-! ## One level of the readers from the next -/

/-- All that can be read with this much fuel is good. -/
structure Level (hs : Handles) (n : Nat) : Prop where
  node : ∀ {P a} (b i : Bool) (ts : List Token), a.Sound P →
    Good P a (fun _ => True) (read hs n b i ts a)
  blockSequence : ∀ {P a} (m : Mark) (ts : List Token) (items : List Node), a.Sound P →
    (∀ y ∈ items, Known P a y) → Good P a IsOwn (readBlockSequence hs n m ts a items)
  indentless : ∀ {P a} (m : Mark) (ts : List Token) (items : List Node), a.Sound P →
    (∀ y ∈ items, Known P a y) → Good P a IsOwn (readIndentless hs n m ts a items)
  part : ∀ {P a} (ts : List Token), a.Sound P → Good P a (fun _ => True) (readBlockPart hs n ts a)
  blockMapping : ∀ {P a} (m : Mark) (ts : List Token) (es : List (Node × Node)), a.Sound P →
    (∀ e ∈ es, Known P a e.1 ∧ Known P a e.2) → Good P a IsOwn (readBlockMapping hs n m ts a es)
  flowSequence : ∀ {P a} (m : Mark) (first : Bool) (ts : List Token) (items : List Node),
    a.Sound P → (∀ y ∈ items, Known P a y) →
      Good P a IsOwn (readFlowSequence hs n m first ts a items)
  flowMapping : ∀ {P a} (m : Mark) (first : Bool) (ts : List Token) (es : List (Node × Node)),
    a.Sound P → (∀ e ∈ es, Known P a e.1 ∧ Known P a e.2) →
      Good P a IsOwn (readFlowMapping hs n m first ts a es)

theorem known_sequence (m : Mark) {items : List Node} (h : ∀ y ∈ items, Known P a y) :
    Known P a (.sequence m items.reverse) :=
  .sequence m fun y hy => h y (List.mem_reverse.mp hy)

theorem known_mapping (m : Mark) {es : List (Node × Node)}
    (h : ∀ e ∈ es, Known P a e.1 ∧ Known P a e.2) : Known P a (.mapping m es.reverse) :=
  .mapping m (fun e he => (h e (List.mem_reverse.mp he)).1)
    fun e he => (h e (List.mem_reverse.mp he)).2

theorem Level.succ_blockSequence (hn : Level hs n) (m : Mark) (ts : List Token)
    (items : List Node) (ha : a.Sound P) (hi : ∀ y ∈ items, Known P a y) :
    Good P a IsOwn (readBlockSequence hs (n + 1) m ts a items) := by
  unfold readBlockSequence
  split
  · exact Good.ok (Q := IsOwn) ha (known_sequence m hi) trivial
  · split
    · exact hn.blockSequence _ _ _ ha (List.forall_mem_cons.mpr ⟨known_absent _, hi⟩)
    · exact hn.blockSequence _ _ _ ha (List.forall_mem_cons.mpr ⟨known_absent _, hi⟩)
    · refine (hn.node _ _ _ ha).bind fun y ts₁ a₁ hy _ => ?_
      exact hn.blockSequence _ _ _ hy.sound
        (List.forall_mem_cons.mpr ⟨hy.known, fun z hz => hy.lift (hi z hz)⟩)
  · exact .unexpected ts

theorem Level.succ_indentless (hn : Level hs n) (m : Mark) (ts : List Token)
    (items : List Node) (ha : a.Sound P) (hi : ∀ y ∈ items, Known P a y) :
    Good P a IsOwn (readIndentless hs (n + 1) m ts a items) := by
  unfold readIndentless
  split
  · split
    case h_5 =>
      refine (hn.node _ _ _ ha).bind fun y ts₁ a₁ hy _ => ?_
      exact hn.indentless _ _ _ hy.sound
        (List.forall_mem_cons.mpr ⟨hy.known, fun z hz => hy.lift (hi z hz)⟩)
    all_goals exact hn.indentless _ _ _ ha (List.forall_mem_cons.mpr ⟨known_absent _, hi⟩)
  · exact Good.ok (Q := IsOwn) ha (known_sequence m hi) trivial

theorem Level.succ_part (hn : Level hs n) (ts : List Token) (ha : a.Sound P) :
    Good P a (fun _ => True) (readBlockPart hs (n + 1) ts a) := by
  unfold readBlockPart
  split
  case h_4 => exact hn.node _ _ _ ha
  all_goals exact .ok ha (known_absent _) trivial

theorem Level.succ_blockMapping (hn : Level hs n) (m : Mark) (ts : List Token)
    (es : List (Node × Node)) (ha : a.Sound P) (hi : ∀ e ∈ es, Known P a e.1 ∧ Known P a e.2) :
    Good P a IsOwn (readBlockMapping hs (n + 1) m ts a es) := by
  unfold readBlockMapping
  split
  · exact .ok ha (known_mapping m hi) trivial
  · refine (hn.part _ ha).bind fun k ts₁ a₁ hk _ => ?_
    have hi₁ : ∀ e ∈ es, Known P a₁ e.1 ∧ Known P a₁ e.2 :=
      fun e he => ⟨hk.lift (hi e he).1, hk.lift (hi e he).2⟩
    dsimp only
    split
    · refine (hn.part _ hk.sound).bind fun v ts₂ a₂ hv _ => ?_
      apply hn.blockMapping _ _ _ hv.sound
      refine List.forall_mem_cons.mpr ⟨⟨hv.lift hk.known, hv.known⟩, ?_⟩
      exact fun e he => ⟨hv.lift (hi₁ e he).1, hv.lift (hi₁ e he).2⟩
    · exact hn.blockMapping _ _ _ hk.sound
        (List.forall_mem_cons.mpr ⟨⟨hk.known, known_absent _⟩, hi₁⟩)
  · exact .unexpected ts

theorem Level.succ_flowSequence (hn : Level hs n) (m : Mark) (first : Bool) (ts : List Token)
    (items : List Node) (ha : a.Sound P) (hi : ∀ y ∈ items, Known P a y) :
    Good P a IsOwn (readFlowSequence hs (n + 1) m first ts a items) := by
  have hrest : ∀ (e : Mark) {k v : Node} {ts₂ : List Token} {a₁ a₂ : Anchors}, Extends P a k a₁ →
      Extends P a₁ v a₂ → Good P a₂ IsOwn
        (readFlowSequence hs n m false ts₂ a₂ (.mapping e [(k, v)] :: items)) := by
    intro e k v ts₂ a₁ a₂ hk hv
    have hkv : ∀ e ∈ [(k, v)], Known P a₂ e.1 ∧ Known P a₂ e.2 := by
      simpa using ⟨hv.lift hk.known, hv.known⟩
    apply hn.flowSequence _ _ _ _ hv.sound
    exact List.forall_mem_cons.mpr ⟨known_mapping e hkv, fun y hy => hv.lift (hk.lift (hi y hy))⟩
  unfold readFlowSequence
  split
  · exact .ok ha (known_sequence m hi) trivial
  split
  · exact .unexpected _
  generalize (if first = true then _ else _) = us
  dsimp only
  split
  · exact Good.ok (Q := IsOwn) ha (known_sequence m hi) trivial
  · split
    all_goals refine Good.bind (Q := fun _ => True) ?_ fun k ts₁ a₁ hk _ => ?_
    case h_1.refine_1 | h_2.refine_1 | h_3.refine_1 => exact .ok ha (known_absent _) trivial
    case h_4.refine_1 => exact hn.node _ _ _ ha
    all_goals
      dsimp only
      split
      · split
        all_goals refine Good.bind (Q := fun _ => True) ?_ fun v ts₂ a₂ hv _ => hrest _ hk hv
        case h_3 => exact hn.node _ _ _ hk.sound
        all_goals exact .ok hk.sound (known_absent _) trivial
      · exact (Good.ok (Q := fun _ => True) hk.sound (known_absent _) trivial).bind
          fun v ts₂ a₂ hv _ => hrest _ hk hv
  · refine (hn.node _ _ _ ha).bind fun y ts₁ a₁ hy _ => ?_
    exact hn.flowSequence _ _ _ _ hy.sound
      (List.forall_mem_cons.mpr ⟨hy.known, fun z hz => hy.lift (hi z hz)⟩)

theorem Level.succ_flowMapping (hn : Level hs n) (m : Mark) (first : Bool) (ts : List Token)
    (es : List (Node × Node)) (ha : a.Sound P) (hi : ∀ e ∈ es, Known P a e.1 ∧ Known P a e.2) :
    Good P a IsOwn (readFlowMapping hs (n + 1) m first ts a es) := by
  have hrest : ∀ {k v : Node} {ts₂ : List Token} {a₁ a₂ : Anchors}, Extends P a k a₁ →
      Extends P a₁ v a₂ → Good P a₂ IsOwn (readFlowMapping hs n m false ts₂ a₂ ((k, v) :: es)) := by
    intro k v ts₂ a₁ a₂ hk hv
    apply hn.flowMapping _ _ _ _ hv.sound
    refine List.forall_mem_cons.mpr ⟨⟨hv.lift hk.known, hv.known⟩, fun e he => ?_⟩
    exact ⟨hv.lift (hk.lift (hi e he).1), hv.lift (hk.lift (hi e he).2)⟩
  unfold readFlowMapping
  split
  · exact .ok ha (known_mapping m hi) trivial
  split
  · exact .unexpected _
  generalize (if first = true then _ else _) = us
  dsimp only
  split
  · exact Good.ok (Q := IsOwn) ha (known_mapping m hi) trivial
  · split
    all_goals refine Good.bind (Q := fun _ => True) ?_ fun k ts₁ a₁ hk _ => ?_
    case h_1.refine_1 | h_2.refine_1 | h_3.refine_1 => exact .ok ha (known_absent _) trivial
    case h_4.refine_1 => exact hn.node _ _ _ ha
    all_goals
      dsimp only
      split
      · split
        all_goals refine Good.bind (Q := fun _ => True) ?_ fun v ts₂ a₂ hv _ => hrest hk hv
        case h_3 => exact hn.node _ _ _ hk.sound
        all_goals exact .ok hk.sound (known_absent _) trivial
      · exact (Good.ok (Q := fun _ => True) hk.sound (known_absent _) trivial).bind
          fun v ts₂ a₂ hv _ => hrest hk hv
  · refine (hn.node _ _ _ ha).bind fun k ts₁ a₁ hk _ => ?_
    apply hn.flowMapping _ _ _ _ hk.sound
    refine List.forall_mem_cons.mpr ⟨⟨hk.known, known_absent _⟩, fun e he => ?_⟩
    exact ⟨hk.lift (hi e he).1, hk.lift (hi e he).2⟩

/-- A node with an anchor in front of it: its slot is being defined while the node is read, and
    is defined afterwards. -/
theorem Good.anchored (anchor : Option (List Char)) (ha : a.Sound P) {r : Reading}
    (hr : ∀ P', (a.start anchor).1.Sound P' → Good P' (a.start anchor).1 IsOwn r) :
    Good P a (fun _ => True)
      (r.map fun (x, ts, a') => (x, ts, a'.define (a.start anchor).2 x)) := by
  intro x ts a' h
  cases r with
  | error e => cases h
  | ok y =>
  obtain ⟨y, ts₁, a₁⟩ := y
  cases anchor with
  | none =>
    cases h
    exact ⟨(hr P ha x ts _ rfl).1, trivial⟩
  | some name =>
    have hs : (a.start (some name)).1.Sound fun i => P i ∨ i = a.names.length := by
      refine ⟨fun x hx => ?_, fun x hx => ?_, ha.own⟩
      · rcases List.mem_cons.mp hx with rfl | hx
        · exact .inl (.inr rfl)
        · rcases ha.names x (List.mem_filter.mp hx).1 with h | h
          · exact .inl (.inl h)
          · exact .inr h
      · refine (ha.refers x hx).mono fun i hi => ?_
        rcases hi with h | h
        · exact .inl (.inl h)
        · exact .inr h
    obtain ⟨⟨hsound, hgrows, hknown⟩, hown⟩ := hr _ hs y ts₁ a₁ rfl
    obtain ⟨rfl, rfl, rfl⟩ :
        y = x ∧ ts₁ = ts ∧ a₁.define (some (a.started, a.names.length)) y = a' := by
      simpa [Except.map, Anchors.start] using h
    -- What was being defined is defined now.
    have hslot : ∀ i, (P i ∨ i = a.names.length) ∨ a₁.Defined i →
        P i ∨ (a₁.define (some (a.started, a.names.length)) y).Defined i := by
      rintro i ((h | rfl) | ⟨x, hx, hi⟩)
      · exact .inl h
      · exact .inr ⟨_, List.mem_cons_self, rfl⟩
      · exact .inr ⟨x, List.mem_cons_of_mem _ hx, hi⟩
    refine ⟨⟨⟨fun x hx => hslot _ (hsound.names x hx), ?_, ?_⟩, ?_, hknown.mono hslot⟩, trivial⟩
    · intro x hx
      rcases List.mem_cons.mp hx with rfl | hx
      · exact hknown.mono hslot
      · exact (hsound.refers x hx).mono hslot
    · intro x hx
      rcases List.mem_cons.mp hx with rfl | hx
      · exact hown
      · exact hsound.own x hx
    · intro i hi
      obtain ⟨x, hx, hi⟩ := hgrows i hi
      exact ⟨x, List.mem_cons_of_mem _ hx, hi⟩

theorem Level.succ_node (hn : Level hs n) (b i : Bool) (ts : List Token) (ha : a.Sound P) :
    Good P a (fun _ => True) (read hs (n + 1) b i ts a) := by
  unfold read
  split
  · split
    · next name m ts' _ i hi =>
      obtain ⟨l₁, l₂, hnames, -⟩ := List.lookup_eq_some_iff.mp hi
      have hmem : (name, i) ∈ a.names := by rw [hnames]; simp
      exact .ok ha (.aliasOf m (ha.names _ hmem)) trivial
    · intro x ts' a' h
      cases h
  · dsimp only
    apply Good.bindOther
    intro tag
    split
    · split
      · exact .anchored _ ha fun P' h => hn.indentless _ _ _ h (by simp)
      · split
        · exact .anchored _ ha fun P' h => .ok h (.scalar _ _) trivial
        · exact .unexpected _
    · exact .anchored _ ha fun P' h => .ok h (.scalar _ _) trivial
    · exact .anchored _ ha fun P' h => hn.flowSequence _ _ _ _ h (by simp)
    · exact .anchored _ ha fun P' h => hn.flowMapping _ _ _ _ h (by simp)
    · split
      · exact .anchored _ ha fun P' h => hn.blockSequence _ _ _ h (by simp)
      · split
        · exact .anchored _ ha fun P' h => hn.blockMapping _ _ _ h (by simp)
        · split
          · exact .anchored _ ha fun P' h => .ok h (.scalar _ _) trivial
          · exact .unexpected _

theorem level (hs : Handles) (n : Nat) : Level hs n := by
  induction n with
  | zero =>
    constructor
    all_goals
      intros
      exact Good.unexpected _
  | succ n hn =>
    exact ⟨hn.succ_node, hn.succ_blockSequence, hn.succ_indentless, hn.succ_part,
      hn.succ_blockMapping, hn.succ_flowSequence, hn.succ_flowMapping⟩

end Node

/-! ## Whole documents -/

namespace Document

/-- What stands somewhere in a document, in the tree or in a definition. -/
inductive Part (d : Document) : Node → Prop
  | root {n : Node} (h : d.root = some n) : Part d n
  | definition {x : Definition} (h : x ∈ d.definitions) : Part d x.node
  | item {m : Mark} {items : List Node} {x : Node} (h : Part d (.sequence m items))
      (hx : x ∈ items) : Part d x
  | key {m : Mark} {es : List (Node × Node)} {e : Node × Node} (h : Part d (.mapping m es))
      (he : e ∈ es) : Part d e.1
  | value {m : Mark} {es : List (Node × Node)} {e : Node × Node} (h : Part d (.mapping m es))
      (he : e ∈ es) : Part d e.2

/-- Every alias names a definition, and every definition is a node of its own. -/
structure Closed (d : Document) : Prop where
  root : ∀ n, d.root = some n → n.Refers fun i => ∃ x ∈ d.definitions, x.slot = i
  refers : ∀ x ∈ d.definitions, x.node.Refers fun i => ∃ x ∈ d.definitions, x.slot = i
  own : ∀ x ∈ d.definitions, x.node.IsOwn

variable {d : Document}

theorem Closed.ofAnchors {a : Node.Anchors} {x : Node}
    (h : Node.Extends (fun _ => False) .empty x a) : Closed ⟨some x, a.definitions⟩ := by
  have hdef : ∀ i, False ∨ a.Defined i → ∃ x ∈ a.definitions, x.slot = i := fun i hi =>
    hi.resolve_left id
  refine ⟨?_, fun x hx => (h.sound.refers x hx).mono hdef, h.sound.own⟩
  rintro n ⟨⟩
  exact h.known.mono hdef

theorem readContent_closed {hs : Node.Handles} {explicit : Bool} {ts : List Token}
    (h : readContent hs explicit ts = .ok d) : d.Closed := by
  have hempty : Node.Anchors.empty.Sound fun _ => False := by
    constructor <;> simp [Node.Anchors.empty]
  have hread : ∃ x ts' a, Node.Extends (fun _ => False) .empty x a ∧
      (if ends ts' then pure ⟨some x, a.definitions⟩
        else throw ⟨.moreThanOneDocument, Node.markOf ts'⟩ : Except SyntaxError Document) =
          .ok d := by
    unfold readContent at h
    split at h
    · exact ⟨_, _, _, ⟨hempty, fun _ => id, Node.known_absent _⟩, h⟩
    · cases hr : Node.read hs (3 * ts.length + 3) true false ts .empty with
      | error e =>
        rw [hr] at h
        cases h
      | ok r =>
        rw [hr] at h
        exact ⟨_, _, _, ((Node.level hs _).node _ _ _ hempty _ _ _ hr).1, h⟩
  obtain ⟨x, ts', a, hx, hd⟩ := hread
  split at hd
  · cases hd
    exact .ofAnchors hx
  · cases hd

theorem explicitly_closed {ts : List Token} (h : ofTokens.explicitly ts = .ok d) : d.Closed := by
  unfold ofTokens.explicitly at h
  cases hr : readDirectives ts false [] with
  | error e =>
    rw [hr] at h
    cases h
  | ok r =>
    rw [hr] at h
    obtain ⟨hs, us⟩ := r
    simp only [bind, Except.bind] at h
    split at h
    · exact readContent_closed h
    · rcases us with _ | ⟨t, us⟩ <;> cases h

theorem ofTokens_closed {ts : List Token} (h : ofTokens ts = .ok d) : d.Closed := by
  unfold ofTokens at h
  split at h
  · cases h
    constructor <;> simp
  · split at h
    · exact explicitly_closed h
    · exact explicitly_closed h
    · exact readContent_closed h

theorem ofText_closed {s : List Char} (h : ofText s = .ok d) : d.Closed := by
  unfold ofText at h
  cases hs : Token.scan s with
  | error e =>
    rw [hs] at h
    cases h
  | ok ts =>
    rw [hs] at h
    exact ofTokens_closed h

/-! ## What an alias stands for -/

/-- The later of two definitions, if the second one was made in the slot. -/
def later (slot : Nat) (best : Option Definition) (x : Definition) : Option Definition :=
  if x.slot ≠ slot then best
  else
    match best with
    | some b => if b.order < x.order then some x else some b
    | none => some x

theorem slot?_eq (d : Document) (i : Nat) :
    d.slot? i = (d.definitions.foldl (later i) none).map (·.node) := rfl

theorem later_other {i : Nat} {x : Definition} (h : x.slot ≠ i) (best : Option Definition) :
    later i best x = best := if_pos h

theorem later_same {i : Nat} {x : Definition} (h : x.slot = i) (best : Option Definition) :
    ∃ b, later i best x = some b ∧ (best = some b ∨ b = x) := by
  cases best with
  | none => exact ⟨x, by simp [later, h], .inr rfl⟩
  | some b =>
    by_cases hlt : b.order < x.order
    · exact ⟨x, by simp [later, h, hlt], .inr rfl⟩
    · exact ⟨b, by simp [later, h, hlt], .inl rfl⟩

/-- Once there is a definition, one of those met so far is kept. -/
theorem foldl_later {i : Nat} (ds : List Definition) (best : Option Definition)
    (h : best.isSome ∨ ∃ x ∈ ds, x.slot = i) :
    ∃ x, ds.foldl (later i) best = some x ∧ (best = some x ∨ x ∈ ds) := by
  induction ds generalizing best with
  | nil =>
    obtain ⟨b, rfl⟩ := Option.isSome_iff_exists.mp (h.resolve_right (by simp))
    exact ⟨b, rfl, .inl rfl⟩
  | cons y ds ih =>
    rw [List.foldl_cons]
    by_cases hy : y.slot = i
    · obtain ⟨b, hstep, hb⟩ := later_same hy best
      obtain ⟨x, hfold, hx⟩ := ih (some b) (.inl rfl)
      refine ⟨x, by rw [hstep, hfold], ?_⟩
      rcases hx with hx | hx
      · obtain rfl := Option.some.inj hx
        exact hb.imp_right fun e => List.mem_cons.mpr (.inl e)
      · exact .inr (List.mem_cons_of_mem _ hx)
    · have hrest : best.isSome ∨ ∃ x ∈ ds, x.slot = i := by simpa [hy] using h
      obtain ⟨x, hfold, hx⟩ := ih best hrest
      exact ⟨x, by rw [later_other hy, hfold], hx.imp_right (List.mem_cons_of_mem _)⟩

/-- A slot in which a definition was made holds one of the definitions. -/
theorem slot?_defined {i : Nat} (h : ∃ x ∈ d.definitions, x.slot = i) :
    ∃ x ∈ d.definitions, d.slot? i = some x.node := by
  obtain ⟨x, hfold, hx⟩ := foldl_later d.definitions none (.inr h)
  refine ⟨x, hx.resolve_left (by simp), ?_⟩
  rw [slot?_eq, hfold]
  rfl

theorem Closed.part (hd : d.Closed) {n : Node} (h : d.Part n) :
    n.Refers fun i => ∃ x ∈ d.definitions, x.slot = i := by
  induction h with
  | root h => exact hd.root _ h
  | definition h => exact hd.refers _ h
  | item _ hx ih =>
    cases ih with
    | sequence _ h => exact h _ hx
  | key _ he ih =>
    cases ih with
    | mapping _ hk _ => exact hk _ he
  | value _ he ih =>
    cases ih with
    | mapping _ _ hv => exact hv _ he

/-- Whatever stands in a document stands for a node that is no alias. -/
theorem resolve_isOwn {s : List Char} (hd : ofText s = .ok d) {n : Node} (h : d.Part n) :
    (d.resolve n).IsOwn := by
  have hc : d.Closed := ofText_closed hd
  cases n with
  | aliasOf m i =>
    have hi : ∃ x ∈ d.definitions, x.slot = i := by
      cases hc.part h with
      | aliasOf _ hi => exact hi
    obtain ⟨x, hx, hslot⟩ := slot?_defined hi
    rw [resolve, hslot]
    exact hc.own x hx
  | _ => trivial

end Document
end ScopedEngine.Yaml
