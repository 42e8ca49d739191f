/-
  ScopedEngine.Proofs.Pairing — every session that was opened is ended once, on its engine.

  The calls of entry points are kept in order, and a session is told by the place of its
  initializer call among them. `Ledger held calls` lists the histories there can be: each call
  opens a session, is refused one, or ends one that is held.
-/

import Mathlib.Data.List.Nodup
import Mathlib.Data.List.Perm.Basic
import ScopedEngine.Proofs.World

namespace ScopedEngine

namespace Call

/-- The engine on which a call opened a session: its initializer returned. -/
def opened? : Call → Option Engine
  | .init e _ _ (.returned _) => some e
  | _ => none

/-- The place of the session whose finalizer is called. -/
def ended? : Call → Option Nat
  | .finalize k _ _ _ => some k
  | _ => none

/-- The engine whose finalizer is called. -/
def finalized? : Call → Option Engine
  | .finalize _ e _ _ => some e
  | _ => none

variable (e : Engine) (args : List Bytes) (k n : Nat) (m : String) (o : Outcome Unit)

@[simp] theorem opened?_returned : opened? (.init e args n (.returned ())) = some e := rfl
@[simp] theorem opened?_panicked : opened? (.init e args n (.panicked m)) = none := rfl
@[simp] theorem opened?_finalize : opened? (.finalize k e n o) = none := rfl
@[simp] theorem opened?_reset : opened? .reset = none := rfl
@[simp] theorem ended?_init : ended? (.init e args n o) = none := rfl
@[simp] theorem ended?_finalize : ended? (.finalize k e n o) = some k := rfl
@[simp] theorem ended?_reset : ended? .reset = none := rfl
@[simp] theorem finalized?_init : finalized? (.init e args n o) = none := rfl
@[simp] theorem finalized?_finalize : finalized? (.finalize k e n o) = some e := rfl
@[simp] theorem finalized?_reset : finalized? .reset = none := rfl

end Call

/-- The engine of the session opened at a place. -/
def openedAt (calls : List Call) (k : Nat) : Option Engine := calls[k]?.bind Call.opened?

/-- How often the finalizer has been called for the session opened at a place. -/
def endings (calls : List Call) (k : Nat) : Nat := calls.countP (·.ended? = some k)

/-- The places of the sessions that have been opened and not ended. -/
def alive (calls : List Call) : List Nat :=
  (List.range calls.length).filter fun k => (openedAt calls k).isSome && endings calls k = 0

/-! ## Histories -/

theorem openedAt_lt {calls : List Call} {k : Nat} {e : Engine} (h : openedAt calls k = some e) :
    k < calls.length := by
  by_contra hk
  simp [openedAt, List.getElem?_eq_none (Nat.le_of_not_lt hk)] at h

theorem openedAt_append {calls : List Call} {k : Nat} {e : Engine} (c : Call)
    (h : openedAt calls k = some e) : openedAt (calls ++ [c]) k = some e := by
  unfold openedAt at h ⊢
  rw [List.getElem?_append_left (openedAt_lt h)]
  exact h

/-- A place of a longer history is one of the shorter or the last. -/
theorem openedAt_append_cases {calls : List Call} {c : Call} {k : Nat} {e : Engine}
    (h : openedAt (calls ++ [c]) k = some e) :
    openedAt calls k = some e ∨ k = calls.length ∧ c.opened? = some e := by
  rcases Nat.lt_trichotomy k calls.length with hk | rfl | hk
  · left
    unfold openedAt at h ⊢
    rwa [List.getElem?_append_left hk] at h
  · right
    exact ⟨rfl, by simpa [openedAt] using h⟩
  · have := openedAt_lt h
    simp only [List.length_append, List.length_singleton] at this
    omega

theorem endings_append (calls : List Call) (c : Call) (k : Nat) :
    endings (calls ++ [c]) k = endings calls k + if c.ended? = some k then 1 else 0 := by
  simp [endings, List.countP_append, List.countP_singleton]

/-- What holds of each call and those before it, when a call is added for which it holds. -/
theorem forall_append {P : List Call → Call → Prop} {calls : List Call} {c : Call}
    (h : ∀ j d, calls[j]? = some d → P (calls.take j) d) (hc : P calls c) :
    ∀ j d, (calls ++ [c])[j]? = some d → P ((calls ++ [c]).take j) d := by
  intro j d hj
  rcases Nat.lt_trichotomy j calls.length with hl | rfl | hl
  · rw [List.getElem?_append_left hl] at hj
    rw [List.take_append_of_le_length (Nat.le_of_lt hl)]
    exact h j d hj
  · obtain rfl : c = d := by simpa using hj
    simpa using hc
  · rw [List.getElem?_eq_none (by simp; omega)] at hj
    cases hj

/-- A call sees the sessions alive before it, a finalizer call all of them but its own. -/
def Call.Sees (past : List Call) : Call → Prop
  | .init _ _ n _ => n = (alive past).length
  | .finalize k _ n _ => k ∈ alive past ∧ n + 1 = (alive past).length
  | .reset => True

/-- A finalizer call is for a session that was opened before it, on the same engine. -/
def Call.Answers (past : List Call) : Call → Prop
  | .finalize k e _ _ => openedAt past k = some e
  | _ => True

/-- The histories there can be, with the sessions held after them. A call sees as many active
    sessions as are held besides the one it is about. -/
inductive Ledger : List Session → List Call → Prop
  | nil : Ledger [] []
  | opened {held : List Session} {calls : List Call} (e : Engine) (args : List Bytes) :
      Ledger held calls → Ledger (⟨calls.length, e, .active⟩ :: held)
        (calls ++ [.init e args held.length (.returned ())])
  | refused {held : List Session} {calls : List Call} (e : Engine) (args : List Bytes) (m : String) :
      Ledger held calls → Ledger held (calls ++ [.init e args held.length (.panicked m)])
  | ended {held : List Session} {calls : List Call} (s : Session) (o : Outcome Unit) :
      Ledger (s :: held) calls →
      Ledger held (calls ++ [.finalize s.place s.engine held.length o])
  | reset {held : List Session} {calls : List Call} :
      Ledger held calls → Ledger held (calls ++ [.reset])
  | pass {held held' : List Session} {calls : List Call} :
      Ledger held calls → held.Perm held' → Ledger held' calls

/-- Held sessions and finalizer calls share out the sessions that have been opened. -/
structure Paired (held : List Session) (calls : List Call) : Prop where
  active : ∀ s ∈ held, s.state = .active
  distinct : (held.map Session.place).Nodup
  /-- A held session was opened at its place, on its engine. -/
  opened : ∀ s ∈ held, openedAt calls s.place = some s.engine
  /-- No finalizer has been called for a held session. -/
  pending : ∀ s ∈ held, endings calls s.place = 0
  /-- For one opened and no longer held a finalizer has been called once. -/
  once : ∀ k e, openedAt calls k = some e → (∀ s ∈ held, s.place ≠ k) → endings calls k = 1
  /-- Where no session was opened none is ended. -/
  never : ∀ k, openedAt calls k = none → endings calls k = 0
  answers : ∀ (j : Nat) (c : Call), calls[j]? = some c → c.Answers (calls.take j)

namespace Paired

variable {held : List Session} {calls : List Call}

theorem place_lt (h : Paired held calls) {s : Session} (hs : s ∈ held) : s.place < calls.length :=
  openedAt_lt (h.opened s hs)

/-- A call that neither opens nor ends a session. -/
theorem idle (h : Paired held calls) {c : Call} (ho : c.opened? = none) (he : c.ended? = none) :
    Paired held (calls ++ [c]) := by
  have hc : c.Answers calls := by cases c with
    | finalize k e n o => cases he
    | init _ _ _ _ => trivial
    | reset => trivial
  have hend : ∀ k, endings (calls ++ [c]) k = endings calls k := fun k => by
    simp [endings_append, he]
  refine ⟨h.active, h.distinct, fun s hs => openedAt_append c (h.opened s hs), fun s hs => ?_,
    fun k e hk hheld => ?_, fun k hk => ?_, forall_append h.answers hc⟩
  · rw [hend]
    exact h.pending s hs
  · rw [hend]
    rcases openedAt_append_cases hk with hk | ⟨-, hc⟩
    · exact h.once k e hk hheld
    · rw [ho] at hc; cases hc
  · rw [hend]
    apply h.never
    cases hk' : openedAt calls k with
    | none => rfl
    | some e => rw [openedAt_append c hk'] at hk; cases hk

theorem open_ (h : Paired held calls) (e : Engine) (args : List Bytes) (n : Nat) :
    Paired (⟨calls.length, e, .active⟩ :: held)
      (calls ++ [.init e args n (.returned ())]) := by
  have hend : ∀ k, endings (calls ++ [.init e args n (.returned ())]) k = endings calls k :=
    fun k => by simp [endings_append]
  have hlast : openedAt (calls ++ [.init e args n (.returned ())]) calls.length = some e := by
    simp [openedAt]
  have hnew : openedAt calls calls.length = none := by simp [openedAt]
  refine ⟨?_, ?_, ?_, ?_, fun k e' hk hheld => ?_, fun k hk => ?_, forall_append h.answers trivial⟩
  · intro s hs
    rcases List.mem_cons.mp hs with rfl | hs
    · rfl
    · exact h.active s hs
  · rw [List.map_cons, List.nodup_cons]
    refine ⟨fun hm => ?_, h.distinct⟩
    obtain ⟨s, hs, hp⟩ := List.mem_map.mp hm
    have := h.place_lt hs
    simp only at hp
    omega
  · intro s hs
    rcases List.mem_cons.mp hs with rfl | hs
    · exact hlast
    · exact openedAt_append _ (h.opened s hs)
  · intro s hs
    rw [hend]
    rcases List.mem_cons.mp hs with rfl | hs
    · exact h.never _ hnew
    · exact h.pending s hs
  · rw [hend]
    rcases openedAt_append_cases hk with hk | ⟨rfl, -⟩
    · exact h.once k e' hk fun s hs => hheld s (List.mem_cons_of_mem _ hs)
    · exact absurd rfl (hheld _ List.mem_cons_self)
  · rw [hend]
    apply h.never
    cases hk' : openedAt calls k with
    | none => rfl
    | some e => rw [openedAt_append _ hk'] at hk; cases hk

theorem end_ {s : Session} (h : Paired (s :: held) calls) (n : Nat) (o : Outcome Unit) :
    Paired held (calls ++ [.finalize s.place s.engine n o]) := by
  have hend : ∀ k, endings (calls ++ [.finalize s.place s.engine n o]) k =
      endings calls k + if s.place = k then 1 else 0 := fun k => by
    simp [endings_append]
  have hs : s ∈ s :: held := List.mem_cons_self
  have hne : ∀ t ∈ held, s.place ≠ t.place := by
    intro t ht he
    have := h.distinct
    rw [List.map_cons, List.nodup_cons] at this
    exact this.1 (List.mem_map.mpr ⟨t, ht, he.symm⟩)
  refine ⟨fun t ht => h.active t (List.mem_cons_of_mem _ ht), (List.nodup_cons.mp h.distinct).2,
    fun t ht => openedAt_append _ (h.opened t (List.mem_cons_of_mem _ ht)), fun t ht => ?_,
    fun k e hk hheld => ?_, fun k hk => ?_, forall_append h.answers (h.opened s hs)⟩
  · rw [hend, if_neg (hne t ht)]
    exact h.pending t (List.mem_cons_of_mem _ ht)
  · rw [hend]
    rcases openedAt_append_cases hk with hk | ⟨-, hc⟩
    · by_cases he : s.place = k
      · subst he
        rw [if_pos rfl, h.pending s hs]
      · rw [if_neg he]
        refine h.once k e hk fun t ht => ?_
        rcases List.mem_cons.mp ht with rfl | ht
        · exact he
        · exact hheld t ht
    · cases hc
  · have hk' : openedAt calls k = none := by
      cases hk' : openedAt calls k with
      | none => rfl
      | some e => rw [openedAt_append _ hk'] at hk; cases hk
    have he : s.place ≠ k := by
      rintro rfl
      rw [h.opened s hs] at hk'
      cases hk'
    rw [hend, if_neg he]
    exact h.never k hk'

theorem pass {held' : List Session} (h : Paired held calls) (hp : held.Perm held') :
    Paired held' calls := by
  refine ⟨fun s hs => h.active s (hp.mem_iff.mpr hs), (hp.map _).nodup_iff.mp h.distinct,
    fun s hs => h.opened s (hp.mem_iff.mpr hs), fun s hs => h.pending s (hp.mem_iff.mpr hs),
    fun k e hk hheld => h.once k e hk fun s hs => hheld s (hp.mem_iff.mp hs), h.never, h.answers⟩

theorem endings_le_one (h : Paired held calls) (k : Nat) : endings calls k ≤ 1 := by
  cases ho : openedAt calls k with
  | none => rw [h.never k ho]; exact Nat.zero_le 1
  | some e =>
    by_cases hk : ∃ s ∈ held, s.place = k
    · obtain ⟨s, hs, rfl⟩ := hk
      rw [h.pending s hs]
      exact Nat.zero_le 1
    · have := h.once k e ho fun s hs he => hk ⟨s, hs, he⟩
      omega

/-- Once ended, a session is not ended again by whatever follows. -/
theorem ended_stays {held' : List Session} {calls' : List Call} (h : Paired held' calls')
    (hp : calls <+: calls') {k : Nat} (hk : endings calls k = 1) : endings calls' k = 1 := by
  have hle : endings calls k ≤ endings calls' k := hp.sublist.countP_le
  have := h.endings_le_one k
  omega

/-- The places still alive are those of the held sessions. -/
theorem alive_perm (h : Paired held calls) : (alive calls).Perm (held.map Session.place) := by
  refine (List.perm_ext_iff_of_nodup (List.nodup_range.filter _) h.distinct).mpr fun k => ?_
  simp only [List.mem_filter, List.mem_range, Bool.and_eq_true, decide_eq_true_eq,
    Option.isSome_iff_exists, List.mem_map]
  constructor
  · rintro ⟨-, ⟨e, he⟩, h0⟩
    by_contra hk
    have := h.once k e he fun s hs hp => hk ⟨s, hs, hp⟩
    omega
  · rintro ⟨s, hs, rfl⟩
    exact ⟨h.place_lt hs, ⟨_, h.opened s hs⟩, h.pending s hs⟩

end Paired

namespace Ledger

variable {held : List Session} {calls : List Call}

theorem paired (h : Ledger held calls) : Paired held calls := by
  induction h with
  | nil =>
    refine ⟨by simp, by simp, by simp, by simp, fun k e hk => ?_, fun k _ => rfl, by simp⟩
    simp [openedAt] at hk
  | opened e args _ ih => exact ih.open_ e args _
  | refused e args m _ ih => exact ih.idle rfl rfl
  | ended s o _ ih => exact ih.end_ _ o
  | reset _ ih => exact ih.idle rfl rfl
  | pass _ hp ih => exact ih.pass hp

/-- For every engine, initializers that returned are as many as finalizers called and sessions
    held together. -/
theorem balance (h : Ledger held calls) (e : Engine) :
    calls.countP (·.opened? = some e) =
      calls.countP (·.finalized? = some e) + held.countP (·.engine = e) := by
  induction h with
  | nil => rfl
  | opened e' args _ ih =>
    simp [List.countP_append, List.countP_cons, ih]
    omega
  | refused e' args m _ ih => simp [List.countP_append, ih]
  | ended s o _ ih =>
    simp [List.countP_append, List.countP_cons] at ih ⊢
    omega
  | reset _ ih => simp [List.countP_append, ih]
  | pass _ hp ih => rw [ih, hp.countP_eq]

theorem alive_length (h : Ledger held calls) : (alive calls).length = held.length := by
  rw [h.paired.alive_perm.length_eq, List.length_map]

theorem sees (h : Ledger held calls) : ∀ (j : Nat) (c : Call), calls[j]? = some c → c.Sees (calls.take j) := by
  induction h with
  | nil => simp
  | opened e args h ih => exact forall_append ih h.alive_length.symm
  | refused e args m h ih => exact forall_append ih h.alive_length.symm
  | ended s o h ih =>
    refine forall_append ih ⟨?_, h.alive_length.symm⟩
    exact h.paired.alive_perm.mem_iff.mpr (List.mem_map.mpr ⟨s, List.mem_cons_self, rfl⟩)
  | reset _ ih => exact forall_append ih trivial
  | pass _ _ ih => exact ih

end Ledger

/-! ## Moves keep the books -/

/-- The sessions held account for the calls, and are as many as are counted. -/
structure Balanced (held : List Session) (p : Process) : Prop where
  ledger : Ledger held p.calls
  active : p.active = held.length

namespace Balanced

variable {held : List Session} {p : Process}

theorem start_returned (h : Balanced held p) {e : Engine} {args : List Bytes} {s : Session}
    {q : Process} (hs : Session.start e args p = (.returned s, q)) : Balanced (s :: held) q := by
  obtain ⟨rfl, probes, rfl⟩ := Session.start_returned hs
  have hl := h.ledger.opened e args
  rw [← h.active] at hl
  refine ⟨hl, ?_⟩
  show p.active + 1 = held.length + 1
  rw [h.active]

theorem start_panicked (h : Balanced held p) {e : Engine} {args : List Bytes} {m : String}
    {q : Process} (hs : Session.start e args p = (.panicked m, q)) : Balanced held q := by
  obtain rfl | ⟨probes, rfl⟩ := Session.start_panicked hs
  · exact h
  · have hl := h.ledger.refused e args m
    rw [← h.active] at hl
    exact ⟨hl, h.active⟩

theorem drop {s : Session} (h : Balanced (s :: held) p) : Balanced held (s.drop p).2 := by
  have hs : s.state = .active := h.ledger.paired.active s List.mem_cons_self
  have hlen : p.active = held.length + 1 := h.active
  have hcount := Process.uncount_active (p := p) (by omega)
  obtain ⟨o, probes, hd⟩ := Session.drop_active hs p
  have hl := h.ledger.ended s o
  rw [show held.length = p.uncount.active by omega] at hl
  rw [hd]
  exact ⟨hl, by show p.uncount.active = held.length; omega⟩

theorem pass {held' : List Session} (h : Balanced held p) (hp : held.Perm held') :
    Balanced held' p :=
  ⟨h.ledger.pass hp, h.active.trans hp.length_eq⟩

end Balanced

/-- A move adds to the calls and takes none back. -/
theorem World.Move.calls_grow {linker : Linker} {v w : World} (hm : World.Move linker v w) :
    v.process.calls <+: w.process.calls := by
  cases hm with
  | load _ hl =>
    obtain ⟨log, n, shared, hr⟩ := hl.changes
    simp only [World.loaded, hr]
    exact List.prefix_rfl
  | probe p es held probe => exact List.prefix_rfl
  | forget _ => exact List.prefix_rfl
  | opens _ hs =>
    obtain ⟨-, probes, rfl⟩ := Session.start_returned hs
    exact List.prefix_append _ _
  | refuses _ hs =>
    obtain rfl | ⟨probes, rfl⟩ := Session.start_panicked hs
    · exact List.prefix_rfl
    · exact List.prefix_append _ _
  | drop p es s held =>
    show p.calls <+: (s.drop p).2.calls
    cases hs : s.state with
    | active =>
      obtain ⟨o, probes, hd⟩ := Session.drop_active hs p
      rw [hd]
      exact List.prefix_append _ _
    | finalized =>
      have hd : (s.drop p).2.calls = p.calls := by rw [Session.drop_finalized hs]
      exact hd ▸ List.prefix_rfl
  | pass _ => exact List.prefix_rfl
  | reset p es held => exact List.prefix_append _ _

theorem World.Path.calls_grow {linker : Linker} {v w : World} (h : World.Path linker v w) :
    v.process.calls <+: w.process.calls := by
  induction h with
  | refl => exact List.prefix_rfl
  | tail _ hm ih => exact ih.trans hm.calls_grow

theorem World.Move.balanced {linker : Linker} {v w : World} (hm : World.Move linker v w)
    (h : Balanced v.held v.process) : Balanced w.held w.process := by
  cases hm with
  | load _ hl =>
    obtain ⟨log, n, shared, hr⟩ := hl.changes
    simp only [World.loaded, hr]
    exact ⟨h.ledger, h.active⟩
  | probe p es held probe => exact ⟨h.ledger, h.active⟩
  | forget _ => exact h
  | opens _ hs => exact h.start_returned hs
  | refuses _ hs => exact h.start_panicked hs
  | drop p es s held => exact h.drop
  | pass hp => exact h.pass hp
  | reset p es held => exact ⟨h.ledger.reset, h.active⟩

/-- In every world within reach the books are balanced. -/
theorem World.Reach.balanced {linker : Linker} {w : World} (h : World.Reach linker w) :
    Balanced w.held w.process := by
  induction h with
  | refl => exact ⟨.nil, rfl⟩
  | tail _ hm ih => exact hm.balanced ih

end ScopedEngine
