/-
  ScopedEngine.Proofs.Scanning — the tokens of a flow mapping with quoted keys, one after the other.

  Inside a flow collection a place is one for an entry or one for a value (`AtKey`, `AtValue`).
  Each token leads from such a place to another: `Scans` says it of the text, `Leads` of the
  tokens and of what is open around the place. Before each token the possible keys that are too
  far away are given up (`Faded`, `Drops`); none of them is required, so this never fails, and a
  key of at most 1024 bytes is not given up before its colon (`scans_name`).
-/

import Mathlib.Data.List.Forall2
import ScopedEngine.Proofs.Quoting
import ScopedEngine.Yaml.Token

namespace ScopedEngine.Yaml.Token

open Config

variable {s s' s'' : State} {m : Mark} {c : Char} {t u : List Char} {k k' : Option PendingKey}

/-! ## Places for keys that are given up -/

/-- A possible key as it was, or given up. -/
def Faded (k k' : Option PendingKey) : Prop := k' = k ∨ k' = none

/-- If there is a key here, then not because there must be one. -/
def Optional (k : Option PendingKey) : Prop := ∀ p, k = some p → p.required = false

theorem optional_none : Optional none := fun _ h => nomatch h

theorem optional_some (first : Nat) (m : Mark) : Optional (some ⟨false, first, m⟩) := by
  intro p hp
  cases hp
  rfl

theorem Faded.refl (k : Option PendingKey) : Faded k k := .inl rfl

theorem Faded.trans {k'' : Option PendingKey} (h : Faded k k') (h' : Faded k' k'') :
    Faded k k'' := by
  rcases h' with rfl | rfl
  · exact h
  · exact .inr rfl

theorem Faded.optional (h : Faded k k') (hk : Optional k) : Optional k' := by
  rcases h with rfl | rfl
  · exact hk
  · intro p hp
    cases hp

theorem Faded.none (h : Faded .none k) : k = .none := h.elim id id

/-- The possible keys further out, each as it was or given up. -/
abbrev AllFaded : List (Option PendingKey) → List (Option PendingKey) → Prop := List.Forall₂ Faded

theorem AllFaded.refl (ks : List (Option PendingKey)) : AllFaded ks ks :=
  List.forall₂_same.mpr fun k _ => .refl k

theorem AllFaded.trans {ks ks' ks'' : List (Option PendingKey)} (h : AllFaded ks ks')
    (h' : AllFaded ks' ks'') : AllFaded ks ks'' := by
  induction h generalizing ks'' with
  | nil => exact h'
  | cons hk _ ih =>
    cases h' with
    | cons hk' h' => exact .cons (hk.trans hk') (ih h')

theorem AllFaded.optional {ks ks' : List (Option PendingKey)} (h : AllFaded ks ks')
    (hk : ∀ k ∈ ks, Optional k) : ∀ k ∈ ks', Optional k := by
  induction h with
  | nil => exact hk
  | cons hf _ ih =>
    obtain ⟨h₁, h₂⟩ := List.forall_mem_cons.mp hk
    exact List.forall_mem_cons.mpr ⟨hf.optional h₁, ih h₂⟩

theorem AllFaded.ne_nil {ks ks' : List (Option PendingKey)} (h : AllFaded ks ks') (hk : ks ≠ []) :
    ks' ≠ [] := by
  cases h with
  | nil => exact absurd rfl hk
  | cons _ _ => exact List.cons_ne_nil _ _

theorem freshKey_optional (m : Mark) (hk : Optional k) : ∃ k', freshKey m k = .ok k' ∧ Faded k k' ∧
    ∀ p, k = some p → p.isStale m = false → k' = some p := by
  cases k with
  | none => exact ⟨none, rfl, .refl _, fun p hp => by cases hp⟩
  | some p =>
    have hr : p.required = false := hk p rfl
    by_cases hst : p.isStale m = true
    · refine ⟨none, by simp [freshKey, hst, hr], .inr rfl, fun q hq hfresh => ?_⟩
      obtain rfl := Option.some.inj hq
      rw [hst] at hfresh
      cases hfresh
    · exact ⟨some p, by simp [freshKey, hst], .refl _, fun q hq _ => hq⟩

theorem mapM_freshKey (m : Mark) {ks : List (Option PendingKey)} (hk : ∀ k ∈ ks, Optional k) :
    ∃ ks', ks.mapM (freshKey m) = .ok ks' ∧ AllFaded ks ks' := by
  induction ks with
  | nil => exact ⟨[], rfl, .nil⟩
  | cons k ks ih =>
    obtain ⟨h₁, h₂⟩ := List.forall_mem_cons.mp hk
    obtain ⟨k', hk', hf, -⟩ := freshKey_optional m h₁
    obtain ⟨ks', hks', hfs⟩ := ih h₂
    refine ⟨k' :: ks', ?_, .cons hf hfs⟩
    rw [List.mapM_cons, hk', hks']
    rfl

/-! ## Places inside a flow collection -/

/-- A place where no key is required. -/
structure Loose (s : State) : Prop where
  key : Optional s.key
  outer : ∀ k ∈ s.outer, Optional k

/-- Such a place inside a flow collection. -/
structure Flowing (s : State) : Prop extends Loose s where
  inside : s.outer ≠ []

/-- A place for a value, or right after one. -/
structure AtValue (s : State) : Prop extends Flowing s where
  noKey : s.key = none
  closed : s.keyAllowed = false

/-- A place where an entry may start. -/
structure AtKey (s : State) : Prop extends Flowing s where
  noKey : s.key = none
  allowed : s.keyAllowed = true

/-- Tokens are added, the possible keys further out are these or given up, and the blocks around
    are the same. -/
structure Leads (s : State) (outer : List (Option PendingKey)) (ls : List Lexeme) (s' : State) :
    Prop where
  lexemes : s'.tokens.map (·.lexeme) = ls.reverse ++ s.tokens.map (·.lexeme)
  outer : AllFaded outer s'.outer
  indent : s'.indent = s.indent
  indents : s'.indents = s.indents

theorem Leads.refl (s : State) : Leads s s.outer [] s := ⟨rfl, .refl _, rfl, rfl⟩

theorem Leads.trans {outer : List (Option PendingKey)} {ls ls' : List Lexeme}
    (h : Leads s outer ls s') (h' : Leads s' s'.outer ls' s'') : Leads s outer (ls ++ ls') s'' where
  lexemes := by rw [h'.lexemes, h.lexemes, List.reverse_append, List.append_assoc]
  outer := h.outer.trans h'.outer
  indent := h'.indent.trans h.indent
  indents := h'.indents.trans h.indents

/-- The state after one more token of a flow collection. -/
def State.after (s : State) (l : Lexeme) (m : Mark) (k : Option PendingKey) (allowed : Bool) :
    State :=
  { s.emit l m with key := k, keyAllowed := allowed }

theorem Flowing.after (h : Flowing s) (l : Lexeme) (m : Mark) (hk : Optional k) (allowed : Bool) :
    Flowing (s.after l m k allowed) :=
  ⟨⟨hk, h.outer⟩, h.inside⟩

/-- What giving up keys at a place does. -/
structure Drops (s : State) (m : Mark) (s' : State) : Prop where
  leads : Leads s s.outer [] s'
  key : Faded s.key s'.key
  fresh : ∀ p, s.key = some p → p.isStale m = false → s'.key = some p
  count : s'.count = s.count
  keyAllowed : s'.keyAllowed = s.keyAllowed

theorem Drops.flowing (h : Drops s m s') (hs : Flowing s) : Flowing s' :=
  ⟨⟨h.key.optional hs.key, h.leads.outer.optional hs.outer⟩, h.leads.outer.ne_nil hs.inside⟩

theorem Drops.noKey (h : Drops s m s') (hs : s.key = none) : s'.key = none := by
  have hf := h.key
  rw [hs] at hf
  exact hf.none

theorem Drops.emits (h : Drops s m s') (l : Lexeme) (k : Option PendingKey) (allowed : Bool) :
    Leads s s.outer [l] (s'.after l m k allowed) where
  lexemes := congrArg (l :: ·) h.leads.lexemes
  outer := h.leads.outer
  indent := h.leads.indent
  indents := h.leads.indents

theorem dropStale_loose (h : Loose s) (m : Mark) :
    ∃ s', s.dropStale m = .ok s' ∧ Drops s m s' := by
  unfold State.dropStale
  split
  · obtain ⟨ks', hks', hfs⟩ := mapM_freshKey m h.outer
    obtain ⟨k', hk', hf, hfresh⟩ := freshKey_optional m h.key
    refine ⟨{ s with key := k', outer := ks' }, ?_, ⟨rfl, hfs, rfl, rfl⟩, hf, hfresh, rfl, rfl⟩
    rw [hks', hk']
    rfl
  · exact ⟨s, rfl, .refl s, .refl _, fun p hp _ => hp, rfl, rfl⟩

/-! ## One token -/

/-- A character that does not belong to a gap. -/
def StartsToken (c : Char) : Prop :=
  isBreak c = false ∧ c ≠ '\ufeff' ∧ c ≠ ' ' ∧ c ≠ '\t' ∧ c ≠ '#'

instance : DecidablePred StartsToken := fun c =>
  inferInstanceAs (Decidable
    (isBreak c = false ∧ c ≠ '\ufeff' ∧ c ≠ ' ' ∧ c ≠ '\t' ∧ c ≠ '#'))

theorem skipGap_none (h : StartsToken c) (flow allowed : Bool) (t : List Char) (m : Mark) :
    skipGap flow false allowed (c :: t) m = (allowed, ⟨c :: t, m⟩) := by
  obtain ⟨hbreak, hbom, hspace, htab, hhash⟩ := h
  rw [skipGap]
  simp [hbreak, hbom, hspace, htab, hhash]

/-- From a place to a later one, whatever text follows: the characters in between are scanned,
    and as many steps as there are characters left are enough. -/
def Scans (s : State) (m : Mark) (t : List Char) (s' : State) : Prop :=
  ∀ rest n, (t ++ rest).length < n → ∃ n', rest.length < n' ∧
    scanFrom n s ⟨t ++ rest, m⟩ = scanFrom n' s' ⟨rest, m.over t⟩

theorem Scans.nil (s : State) (m : Mark) : Scans s m [] s := fun _ n h => ⟨n, h, rfl⟩

theorem Scans.append (h : Scans s m t s') (h' : Scans s' (m.over t) u s'') :
    Scans s m (t ++ u) s'' := by
  intro rest n hn
  rw [List.append_assoc] at hn ⊢
  obtain ⟨n₁, hn₁, h₁⟩ := h (u ++ rest) n hn
  obtain ⟨n₂, hn₂, h₂⟩ := h' rest n₁ hn₁
  refine ⟨n₂, hn₂, ?_⟩
  rw [h₁, h₂, Mark.over_append]

theorem inFlow_of_outer (h : s.outer ≠ []) : s.inFlow = true := by
  cases ho : s.outer with
  | nil => exact absurd ho h
  | cons k ks => simp [State.inFlow, ho]

theorem unindent_flowing (h : s.outer ≠ []) (column : Int) (m : Mark) :
    s.unindent column m = s := by
  rw [State.unindent, if_pos (inFlow_of_outer h)]

theorem scanFrom_cons (hc : StartsToken c) (n : Nat) (s : State) (t : List Char) (m : Mark) :
    scanFrom (n + 1) s ⟨c :: t, m⟩ = s.dropStale m >>= fun s₁ =>
      next (s₁.unindent m.column m) c t m >>= fun r => scanFrom n r.1 r.2 := by
  rw [scanFrom, skipGap_none hc]

/-- Scanning a token: keys that are too far away are given up first. -/
theorem scans_token (h : Flowing s) (hc : StartsToken c) (m : Mark) :
    ∃ s₁, Drops s m s₁ ∧ ∀ {s' t},
      (∀ rest, next s₁ c (t ++ rest) m = .ok (s', ⟨rest, m.over (c :: t)⟩)) →
      Scans s m (c :: t) s' := by
  obtain ⟨s₁, hdrop, hd⟩ := dropStale_loose h.toLoose m
  refine ⟨s₁, hd, fun {s' t} hnext rest n hn => ?_⟩
  cases n with
  | zero => omega
  | succ n =>
    refine ⟨n, ?_, ?_⟩
    · simp only [List.cons_append, List.length_cons, List.length_append] at hn
      omega
    · calc scanFrom (n + 1) s ⟨c :: t ++ rest, m⟩
          = next (s₁.unindent m.column m) c (t ++ rest) m >>= fun r => scanFrom n r.1 r.2 := by
            rw [List.cons_append, scanFrom_cons hc, hdrop]
            rfl
        _ = scanFrom n s' ⟨rest, m.over (c :: t)⟩ := by
            rw [unindent_flowing (hd.flowing h).inside, hnext]
            rfl

theorem next_quote {cs text : List Char} {cur : Cursor}
    (h : doubleQuoted cs (m.next '"') .empty = .ok (text, cur)) :
    next s '"' cs m = (s.node (.scalar text .quoted) m).map fun s => (s, cur) := by
  have hread : next s '"' cs m = (doubleQuoted cs (m.next '"') .empty >>= fun r =>
      (fun a => (a, r.2)) <$> s.node (.scalar r.1 .quoted) m) := by
    simp [next, atDocumentMark]
  rw [hread, h]
  show (fun a => (a, cur)) <$> s.node (.scalar text .quoted) m = _
  cases s.node (.scalar text .quoted) m <;> rfl

theorem next_open (cs : List Char) :
    next s '\x7b' cs m =
      (s.flowStart .flowMappingStart m).map fun s => (s, ⟨cs, m.next '\x7b'⟩) := by
  simp [next, atDocumentMark]

theorem next_close (cs : List Char) :
    next s '\x7d' cs m =
      (s.flowEnd .flowMappingEnd m).map fun s => (s, ⟨cs, m.next '\x7d'⟩) := by
  simp [next, atDocumentMark]

theorem next_comma (cs : List Char) :
    next s ',' cs m = (s.flowEntry m).map fun s => (s, ⟨cs, m.next ','⟩) := by
  simp [next, atDocumentMark]

theorem next_colon (h : s.outer ≠ []) (cs : List Char) :
    next s ':' cs m = (s.value m).map fun s => (s, ⟨cs, m.next ':'⟩) := by
  simp [next, atDocumentMark, inFlow_of_outer h]

/-! ## Keys remembered and forgotten -/

theorem dropKey_none (h : s.key = none) : s.dropKey = .ok s := by
  rw [State.dropKey, h]

theorem node_closed (hk : s.key = none) (h : s.keyAllowed = false) (l : Lexeme) (m : Mark) :
    s.node l m = .ok (s.after l m none false) := by
  rw [← hk, State.node, State.saveKey, h]
  rfl

/-- Where a key may start, this is remembered. -/
theorem node_open (hk : s.key = none) (h : s.keyAllowed = true) (ho : s.outer ≠ []) (l : Lexeme)
    (m : Mark) : s.node l m = .ok (s.after l m (some ⟨false, s.count, m⟩) false) := by
  rw [State.node, State.saveKey, if_pos h, dropKey_none hk, inFlow_of_outer ho]
  rfl

theorem flowEntry_none (hk : s.key = none) (m : Mark) :
    s.flowEntry m = .ok (s.after .flowEntry m none true) := by
  rw [State.flowEntry, dropKey_none hk, ← hk]
  rfl

/-! ## Each token in turn -/

/-- A quoted text where a value may stand. -/
theorem scans_value (h : AtValue s) (m : Mark) (ht : ∀ c ∈ t, Carried c) :
    ∃ s', Scans s m (Json.string t) s' ∧ AtValue s' ∧ Leads s s.outer [.scalar t .quoted] s' := by
  obtain ⟨s₁, hd, hscan⟩ := scans_token (c := '"') h.toFlowing (by decide) m
  have hs₁ := hd.flowing h.toFlowing
  refine ⟨s₁.after (.scalar t .quoted) m none false,
    hscan (t := t.flatMap Json.escape ++ ['"']) fun rest => ?_,
    ⟨hs₁.after _ m optional_none false, rfl, rfl⟩, hd.emits _ none false⟩
  rw [List.append_assoc, List.singleton_append, next_quote (doubleQuoted_string m ht rest),
    node_closed (hd.noKey h.noKey) (hd.keyAllowed.trans h.closed)]
  rfl

/-- A comma after a value. -/
theorem scans_comma (h : AtValue s) (m : Mark) :
    ∃ s', Scans s m [','] s' ∧ AtKey s' ∧ Leads s s.outer [.flowEntry] s' := by
  obtain ⟨s₁, hd, hscan⟩ := scans_token (c := ',') h.toFlowing (by decide) m
  have hs₁ := hd.flowing h.toFlowing
  refine ⟨s₁.after .flowEntry m none true, hscan fun rest => ?_,
    ⟨hs₁.after _ m optional_none true, rfl, rfl⟩, hd.emits _ none true⟩
  rw [next_comma, flowEntry_none (hd.noKey h.noKey)]
  rfl

/-- A quoted text where a key may stand. -/
theorem scans_key (h : AtKey s) (m : Mark) (ht : ∀ c ∈ t, Carried c) :
    ∃ s', Scans s m (Json.string t) s' ∧ Flowing s' ∧ Leads s s.outer [.scalar t .quoted] s' ∧
      ∃ first, s'.key = some ⟨false, first, m⟩ ∧ s'.count = first + 1 := by
  obtain ⟨s₁, hd, hscan⟩ := scans_token (c := '"') h.toFlowing (by decide) m
  have hs₁ := hd.flowing h.toFlowing
  refine ⟨s₁.after (.scalar t .quoted) m (some ⟨false, s₁.count, m⟩) false,
    hscan (t := t.flatMap Json.escape ++ ['"']) fun rest => ?_,
    hs₁.after _ m (optional_some _ m) false, hd.emits _ _ false, s₁.count, rfl, rfl⟩
  rw [List.append_assoc, List.singleton_append, next_quote (doubleQuoted_string m ht rest),
    node_open (hd.noKey h.noKey) (hd.keyAllowed.trans h.allowed) hs₁.inside]
  rfl

/-- The colon after a key that is not too far away: the key is marked as one. -/
theorem scans_colon (h : Flowing s) {first : Nat} {start : Mark}
    (hkey : s.key = some ⟨false, first, start⟩) (hcount : s.count = first + 1)
    (hfresh : PendingKey.isStale m ⟨false, first, start⟩ = false) {l : Lexeme} {ls : List Lexeme}
    (htokens : s.tokens.map (·.lexeme) = l :: ls) :
    ∃ s', Scans s m [':'] s' ∧ AtValue s' ∧ s'.tokens.map (·.lexeme) = .value :: l :: .key :: ls ∧
      AllFaded s.outer s'.outer ∧ s'.indent = s.indent ∧ s'.indents = s.indents := by
  obtain ⟨s₁, hd, hscan⟩ := scans_token (c := ':') h (by decide) m
  have hs₁ := hd.flowing h
  have hkey₁ : s₁.key = some ⟨false, first, start⟩ := hd.fresh _ hkey hfresh
  have hvalue : s₁.value m = .ok ((s₁.insertAt first .key start).after .value m none false) := by
    have hopens : (s₁.insertAt first .key start).opens start.column = false := by
      simp [State.opens, State.insertAt, State.inFlow, hs₁.inside]
    rw [State.value, hkey₁]
    simp only [hopens]
    rfl
  refine ⟨(s₁.insertAt first .key start).after .value m none false, hscan fun rest => ?_,
    ⟨⟨⟨optional_none, hs₁.outer⟩, hs₁.inside⟩, rfl, rfl⟩, ?_, hd.leads.outer, hd.leads.indent,
    hd.leads.indents⟩
  · rw [next_colon hs₁.inside, hvalue]
    rfl
  · have hplace : s₁.count - first = 1 := by
      rw [hd.count, hcount]
      omega
    have htokens₁ : s₁.tokens.map (·.lexeme) = l :: ls := hd.leads.lexemes.trans htokens
    obtain ⟨x, xs, hx, rfl, rfl⟩ := List.map_eq_cons_iff.mp htokens₁
    simp [State.after, State.emit, State.insertAt, hplace, hx]

/-- How many bytes a text has. -/
def width (t : List Char) : Nat := t.foldr (fun c n => c.utf8Size + n) 0

theorem over_offset (m : Mark) (t : List Char) :
    (m.over t).offset = m.offset + width t ∧ (m.over t).line = m.line := by
  induction t generalizing m with
  | nil => exact ⟨rfl, rfl⟩
  | cons c t ih =>
    obtain ⟨ho, hl⟩ := ih (m.next c)
    refine ⟨?_, hl⟩
    rw [Mark.over_cons, ho]
    show m.offset + c.utf8Size + width t = m.offset + width (c :: t)
    exact Nat.add_assoc _ _ _

/-- A name of at most 1024 bytes as it is written, and the colon. -/
theorem scans_name (h : AtKey s) (m : Mark) (ht : ∀ c ∈ t, Carried c)
    (hshort : width (Json.string t) ≤ 1024) :
    ∃ s', Scans s m (Json.string t ++ [':']) s' ∧ AtValue s' ∧
      Leads s s.outer [.key, .scalar t .quoted, .value] s' := by
  obtain ⟨s₁, hscan, hs₁, hleads, first, hkey, hcount⟩ := scans_key h m ht
  have hfresh : PendingKey.isStale (m.over (Json.string t)) ⟨false, first, m⟩ = false := by
    obtain ⟨ho, hl⟩ := over_offset m (Json.string t)
    simp only [PendingKey.isStale, ho, hl, Bool.or_eq_false_iff, decide_eq_false_iff_not]
    omega
  obtain ⟨s₂, hscan₂, hs₂, htokens, houter, hindent, hindents⟩ :=
    scans_colon hs₁ hkey hcount hfresh hleads.lexemes
  exact ⟨s₂, hscan.append hscan₂, hs₂, htokens, hleads.outer.trans houter,
    hindent.trans hleads.indent, hindents.trans hleads.indents⟩

/-- The brace that opens a mapping where a value may stand. -/
theorem scans_open (h : AtValue s) (m : Mark) :
    ∃ s', Scans s m ['\x7b'] s' ∧ AtKey s' ∧ Leads s (none :: s.outer) [.flowMappingStart] s' := by
  obtain ⟨s₁, hd, hscan⟩ := scans_token (c := '\x7b') h.toFlowing (by decide) m
  have hs₁ := hd.flowing h.toFlowing
  have hkey : s₁.key = none := hd.noKey h.noKey
  let s' : State := { s₁.after .flowMappingStart m none true with outer := none :: s₁.outer }
  have hstart : s₁.flowStart .flowMappingStart m = .ok s' := by
    have hclosed : s₁.keyAllowed = false := hd.keyAllowed.trans h.closed
    simp only [s', State.flowStart, State.saveKey, hclosed, ← hkey]
    rfl
  have hs' : Flowing s' :=
    ⟨⟨optional_none, List.forall_mem_cons.mpr ⟨optional_none, hs₁.outer⟩⟩, List.cons_ne_nil _ _⟩
  refine ⟨s', hscan fun rest => ?_, ⟨hs', rfl, rfl⟩,
    ⟨congrArg (Lexeme.flowMappingStart :: ·) hd.leads.lexemes, .cons (.refl _) hd.leads.outer,
      hd.leads.indent, hd.leads.indents⟩⟩
  rw [next_open, hstart]
  rfl

/-- The brace that closes a mapping: the possible key in front of it, if it is still one, is
    that of the place again. -/
theorem scans_close (h : Flowing s) (hk : s.key = none) (m : Mark) {ks : List (Option PendingKey)}
    (houter : AllFaded (k :: ks) s.outer) :
    ∃ s', Scans s m ['\x7d'] s' ∧ s'.keyAllowed = false ∧ Faded k s'.key ∧ AllFaded ks s'.outer ∧
      s'.tokens.map (·.lexeme) = .flowMappingEnd :: s.tokens.map (·.lexeme) ∧
      s'.indent = s.indent ∧ s'.indents = s.indents := by
  obtain ⟨s₁, hd, hscan⟩ := scans_token (c := '\x7d') h (by decide) m
  have hfaded := houter.trans hd.leads.outer
  cases ho : s₁.outer with
  | nil => exact absurd ho (hd.flowing h).inside
  | cons k' ks' =>
    rw [ho] at hfaded
    obtain ⟨hf, hfs⟩ := List.forall₂_cons.mp hfaded
    have hend : s₁.flowEnd .flowMappingEnd m =
        .ok { s₁.after .flowMappingEnd m k' false with outer := ks' } := by
      have houter₁ : (s₁.emit .flowMappingEnd m).outer = k' :: ks' := ho
      rw [State.flowEnd, dropKey_none (hd.noKey hk)]
      simp only [bind, Except.bind, houter₁]
      rfl
    refine ⟨{ s₁.after .flowMappingEnd m k' false with outer := ks' }, hscan fun rest => ?_, rfl,
      hf, hfs, congrArg (Lexeme.flowMappingEnd :: ·) hd.leads.lexemes, hd.leads.indent,
      hd.leads.indents⟩
    rw [next_close, hend]
    rfl

/-! ## The ends of a text -/

/-- The state after the brace that opens a text. -/
def opened : State :=
  { State.init.emit .flowMappingStart .start with
    key := none
    outer := [some ⟨false, 0, .start⟩]
    keyAllowed := true }

theorem atKey_opened : AtKey opened := by
  have houter : ∀ k ∈ opened.outer, Optional k :=
    List.forall_mem_singleton.mpr (optional_some 0 .start)
  exact ⟨⟨⟨optional_none, houter⟩, List.cons_ne_nil _ _⟩, rfl, rfl⟩

theorem scanFrom_open (n : Nat) (t : List Char) :
    scanFrom (n + 1) .init ⟨'\x7b' :: t, .start⟩ =
      scanFrom n opened ⟨t, Mark.start.next '\x7b'⟩ := by
  have hstep : scanFrom (n + 1) .init ⟨'\x7b' :: t, .start⟩ =
      next .init '\x7b' t .start >>= fun r => scanFrom n r.1 r.2 :=
    scanFrom_cons (by decide) n .init t .start
  rw [hstep, next_open]
  rfl

/-- Outside all collections there is nothing to close. -/
theorem unindent_outside (hout : s.outer = []) (hind : s.indent = -1) (hinds : s.indents = [])
    {column : Int} (hcol : -1 ≤ column) (m : Mark) : s.unindent column m = s := by
  have hflow : s.inFlow = false := by simp [State.inFlow, hout]
  have hle : ¬ column < s.indent := by omega
  rw [State.unindent, hflow, hinds, State.closeTo, if_neg hle]
  rfl

theorem dropKey_optional (h : Optional s.key) : s.dropKey = .ok { s with key := none } := by
  cases hk : s.key with
  | none => rw [dropKey_none hk, ← hk]
  | some p =>
    have hr : p.required = false := h p hk
    simp [State.dropKey, hk, hr]

/-- At the end of a text, outside all collections, only the end is missing. -/
theorem scanFrom_end {n : Nat} (hn : 0 < n) (h : Loose s) (hout : s.outer = [])
    (hind : s.indent = -1) (hinds : s.indents = []) (m : Mark) :
    ∃ ts, scanFrom n s ⟨[], m⟩ = .ok ts ∧
      ts.map (·.lexeme) = (s.tokens.map (·.lexeme)).reverse ++ [.streamEnd] := by
  obtain ⟨s₁, hdrop, hd⟩ := dropStale_loose h m
  have hout₁ : s₁.outer = [] := by
    have hf := hd.leads.outer
    rw [hout] at hf
    exact List.forall₂_nil_left_iff.mp hf
  have hind₁ : s₁.indent = -1 := hd.leads.indent.trans hind
  have hinds₁ : s₁.indents = [] := hd.leads.indents.trans hinds
  have hfinish : ∀ m, s₁.finish m = .ok ({ s₁ with key := none, keyAllowed := false }.emit
      .streamEnd (if m.column = 0 then m else m.nextLine)) := by
    intro m
    rw [State.finish, State.leaveDocument, unindent_outside hout₁ hind₁ hinds₁ (by omega),
      dropKey_optional (hd.key.optional h.key)]
    rfl
  cases n with
  | zero => omega
  | succ n =>
    refine ⟨(⟨.streamEnd, if m.column = 0 then m else m.nextLine⟩ :: s₁.tokens).reverse, ?_, ?_⟩
    · rw [scanFrom, skipGap]
      show (do
        let s ← s.dropStale m
        let s ← (s.unindent m.column m).finish m
        return s.tokens.reverse) = _
      rw [hdrop]
      show (do
        let s ← (s₁.unindent m.column m).finish m
        return s.tokens.reverse) = _
      rw [unindent_outside hout₁ hind₁ hinds₁ (by omega), hfinish]
      rfl
    · have hlex : s₁.tokens.map (·.lexeme) = s.tokens.map (·.lexeme) := hd.leads.lexemes
      rw [List.reverse_cons, List.map_append, List.map_reverse, hlex]
      rfl

end ScopedEngine.Yaml.Token
