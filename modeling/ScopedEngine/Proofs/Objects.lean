/-
  ScopedEngine.Proofs.Objects — session objects, the sessions behind them and their references.

  An object is told by its number; the session behind it was opened by the call that stands at that
  number among the calls that opened sessions (`openings`, `State.Owns`). In a `Sound` state the
  sessions of the objects account for the calls, and every object owns one; making an object and
  letting go of one keep it so. In a `Kept` state every object that is open is referred to, by a
  name or by the scope it stands in.
-/

import ScopedEngine.Proofs.Making
import ScopedEngine.Proofs.Pairing
import ScopedEngine.Proofs.Points

namespace ScopedEngine

/-! ## Openings -/

/-- The places of the calls that opened sessions, in order. -/
def openings (calls : List Call) : List Nat :=
  (List.range calls.length).filter fun k => (openedAt calls k).isSome

theorem openings_nodup (calls : List Call) : (openings calls).Nodup := List.nodup_range.filter _

theorem openings_append (calls : List Call) (c : Call) :
    openings (calls ++ [c]) =
      openings calls ++ if c.opened?.isSome then [calls.length] else [] := by
  have hold : (List.range calls.length).filter (fun k => (openedAt (calls ++ [c]) k).isSome) =
      openings calls := by
    refine List.filter_congr fun k hk => ?_
    rw [openedAt, List.getElem?_append_left (List.mem_range.mp hk), openedAt]
  have hlast : openedAt (calls ++ [c]) calls.length = c.opened? := by simp [openedAt]
  rw [openings, List.length_append, List.length_singleton, List.range_succ, List.filter_append, hold,
    List.filter_singleton, hlast]
  cases c.opened?.isSome <;> rfl

/-- A library returns from its finalizer. -/
theorem Session.drop_library {x : Session} {l : Library} (he : x.engine = .library l)
    (hs : x.state = .active) (p : Process) : (x.drop p).2.calls =
      p.calls ++ [.finalize x.place (.library l) p.uncount.active (.returned ())] := by
  simp only [drop, finish, hs, Process.callFinalize, Process.runFinalize, he]
  rfl

namespace Host

namespace State

/-! ## References -/

/-- A name or an open scope refers to the object. -/
def Mentions (s : State) (id : Nat) : Prop := id ∈ s.held ∨ ∃ name, (name, id) ∈ s.names

/-- The name is the last reference to the object. -/
def Last (s : State) (name : String) (id : Nat) : Prop :=
  s.id? name = some id ∧ ¬ (s.unname name).Mentions id

/-- The state in which the body of a scope begins. -/
def enter (s : State) (id : Nat) : State := { s with held := id :: s.held }

/-- The state in which a scope has ended, after its body. -/
def leave (s : State) (id : Nat) : State :=
  ({ s.closeId id with held := (s.closeId id).held.erase id } : State).letGo id

/-- The state in which a new object has got its name. -/
def bind (s : State) (name : String) (h : Handle) (q : Process) : State :=
  { s with
    process := q
    handles := s.handles ++ [h]
    names := (name, s.handles.length) :: (s.unname name).names }

theorem letGo_cases (s : State) (id : Nat) :
    s.Mentions id ∧ s.letGo id = s ∨ ¬ s.Mentions id ∧ s.letGo id = s.closeId id := by
  have h : (s.held.contains id || s.names.any (·.2 == id)) = true ↔ s.Mentions id := by
    simp [Mentions]
  unfold letGo
  split
  · next hm => exact .inl ⟨h.mp hm, rfl⟩
  · next hm => exact .inr ⟨fun hm' => hm (h.mpr hm'), rfl⟩

/-! ## Closing -/

theorem handle_of_lt {s : State} {id : Nat} (h : id < s.handles.length) :
    s.handle id = s.handles[id] := by
  simp [handle, h]

/-- Where there is no object nothing is open. -/
theorem handle_of_ge {s : State} {id : Nat} (h : s.handles.length ≤ id) :
    s.handle id = ⟨none, ""⟩ := by
  simp [handle, h]

theorem lt_of_inner {s : State} {id : Nat} {x : Session} (h : (s.handle id).inner = some x) :
    id < s.handles.length := by
  by_contra hn
  rw [handle_of_ge (Nat.le_of_not_lt hn)] at h
  cases h

/-- Closing what is closed does nothing. -/
theorem closeId_closed {s : State} {id : Nat} (h : (s.handle id).inner = none) :
    s.closeId id = s := by
  have hset : s.handles.set id (s.handle id) = s.handles := by
    by_cases hl : id < s.handles.length
    · rw [handle_of_lt hl, List.set_getElem_self]
    · exact List.set_eq_of_length_le (Nat.le_of_not_lt hl)
  have hc : (s.handle id).close s.process = (s.handle id, s.process) := by
    simp only [Handle.close, h]
  simp only [closeId, hc, hset]

theorem closeId_open {s : State} {id : Nat} {x : Session} (h : (s.handle id).inner = some x) :
    s.closeId id = { s with
      process := (x.drop s.process).2
      handles := s.handles.set id { s.handle id with inner := none } } := by
  simp only [closeId, Handle.close, h, x.close_eq_drop]

theorem handle_closeId (s : State) (id j : Nat) :
    (s.closeId id).handle j = if j = id then { s.handle id with inner := none } else s.handle j := by
  cases hx : (s.handle id).inner with
  | none =>
    rw [closeId_closed hx]
    split
    · next hj => subst hj; rw [← hx]
    · rfl
  | some x =>
    have hl := lt_of_inner hx
    rw [closeId_open hx]
    by_cases hj : j = id
    · subst hj
      simp [handle, hl]
    · simp [handle, hj, Ne.symm hj]

theorem length_closeId (s : State) (id : Nat) : (s.closeId id).handles.length = s.handles.length := by
  simp [closeId]

@[simp] theorem held_closeId (s : State) (id : Nat) : (s.closeId id).held = s.held := rfl

@[simp] theorem names_closeId (s : State) (id : Nat) : (s.closeId id).names = s.names := rfl

@[simp] theorem held_letGo (s : State) (id : Nat) : (s.letGo id).held = s.held := by
  rcases s.letGo_cases id with ⟨-, h⟩ | ⟨-, h⟩ <;> simp only [h, held_closeId]

@[simp] theorem names_letGo (s : State) (id : Nat) : (s.letGo id).names = s.names := by
  rcases s.letGo_cases id with ⟨-, h⟩ | ⟨-, h⟩ <;> simp only [h, names_closeId]

theorem handle_bind_old {s : State} {id : Nat} (name : String) (h : Handle) (q : Process)
    (hid : id < s.handles.length) : (s.bind name h q).handle id = s.handle id := by
  simp [handle, bind, List.getElem?_append_left hid]

theorem handle_bind_new (s : State) (name : String) (h : Handle) (q : Process) :
    (s.bind name h q).handle s.handles.length = h := by
  simp [handle, bind]

/-- Objects there were before are referred to as if the name had only been taken. -/
theorem mentions_bind {s : State} {name : String} {id : Nat} (h : Handle) (q : Process)
    (hid : id < s.handles.length) :
    (s.bind name h q).Mentions id ↔ (s.unname name).Mentions id := by
  have hne : id ≠ s.handles.length := Nat.ne_of_lt hid
  simp [Mentions, bind, unname, hne]

/-! ## Objects and their sessions -/

/-- Setting an entry that holds something to one that holds nothing. -/
theorem perm_filterMap_set {hs : List Handle} {id : Nat} (hl : id < hs.length) {x : Session}
    (h : hs[id].inner = some x) (a : Handle) (ha : a.inner = none) :
    (hs.filterMap Handle.inner).Perm (x :: (hs.set id a).filterMap Handle.inner) := by
  induction hs generalizing id with
  | nil => cases hl
  | cons b hs ih =>
    cases id with
    | zero =>
      rw [List.getElem_cons_zero] at h
      rw [List.set_cons_zero, List.filterMap_cons_some h, List.filterMap_cons_none ha]
    | succ id =>
      have hp := ih (Nat.lt_of_succ_lt_succ hl) h
      rw [List.set_cons_succ]
      cases hb : b.inner with
      | none => rwa [List.filterMap_cons_none hb, List.filterMap_cons_none hb]
      | some y =>
        rw [List.filterMap_cons_some hb, List.filterMap_cons_some hb]
        exact (hp.cons y).trans (.swap _ _ _)

/-- The sessions that objects hold. -/
def sessions (s : State) : List Session := s.handles.filterMap Handle.inner

theorem mem_sessions {s : State} {x : Session} :
    x ∈ s.sessions ↔ ∃ id, (s.handle id).inner = some x := by
  constructor
  · intro h
    obtain ⟨a, ha, hx⟩ := List.mem_filterMap.mp h
    obtain ⟨id, hl, rfl⟩ := List.getElem_of_mem ha
    exact ⟨id, by rw [handle_of_lt hl, hx]⟩
  · rintro ⟨id, hx⟩
    have hl := lt_of_inner hx
    rw [handle_of_lt hl] at hx
    exact List.mem_filterMap.mpr ⟨_, List.getElem_mem hl, hx⟩

/-- The session of an object that is closed stood once among the sessions held. -/
theorem sessions_closeId {s : State} {id : Nat} {x : Session} (h : (s.handle id).inner = some x) :
    s.sessions.Perm (x :: (s.closeId id).sessions) := by
  have hl := lt_of_inner h
  rw [closeId_open h]
  rw [handle_of_lt hl] at h
  exact perm_filterMap_set hl h _ rfl

/-- The session opened at a place, on a library, is that of an object. -/
structure Owns (s : State) (id k : Nat) (l : Library) : Prop where
  place : (openings s.process.calls)[id]? = some k
  engine : openedAt s.process.calls k = some (.library l)
  library : (s.handle id).library = l.path
  session : ∀ x, (s.handle id).inner = some x → x.place = k

/-- The sessions of the objects account for the calls, and every object owns one. -/
structure Sound (s : State) : Prop where
  books : Balanced s.sessions s.process
  named : (s.names.map (·.1)).Nodup
  number : (openings s.process.calls).length = s.handles.length
  owns : ∀ id < s.handles.length, ∃ k l, s.Owns id k l

section

variable {s t : State} {id k : Nat} {l : Library}

theorem handle_congr (hh : t.handles = s.handles) : t.handle = s.handle := by
  funext id
  rw [handle, handle, hh]

theorem Owns.same (h : s.Owns id k l) (hc : t.process.calls = s.process.calls)
    (hh : t.handles = s.handles) : t.Owns id k l := by
  refine ⟨?_, ?_, ?_, ?_⟩
  · rw [hc]; exact h.place
  · rw [hc]; exact h.engine
  · rw [handle_congr hh]; exact h.library
  · rw [handle_congr hh]; exact h.session

theorem Owns.lt (h : s.Owns id k l) (hs : s.Sound) : id < s.handles.length := by
  rw [← hs.number]
  exact (List.getElem?_eq_some_iff.mp h.place).1

namespace Sound

/-- Nothing but the calls, the count and the objects matters. -/
theorem same (h : s.Sound) (hc : t.process.calls = s.process.calls)
    (ha : t.process.active = s.process.active) (hh : t.handles = s.handles)
    (hn : (t.names.map (·.1)).Nodup) : t.Sound := by
  refine ⟨⟨?_, ?_⟩, hn, by rw [hc, hh]; exact h.number, fun id hid => ?_⟩
  · rw [sessions, hh, hc]
    exact h.books.ledger
  · rw [sessions, hh, ha]
    exact h.books.active
  · obtain ⟨k, l, ho⟩ := h.owns id (hh ▸ hid)
    exact ⟨k, l, ho.same hc hh⟩

theorem active (h : s.Sound) {x : Session} (hx : (s.handle id).inner = some x) :
    x.state = .active :=
  h.books.ledger.paired.active x (mem_sessions.mpr ⟨id, hx⟩)

theorem isActive_iff (h : s.Sound) (id : Nat) :
    (s.handle id).isActive = true ↔ ∃ x, (s.handle id).inner = some x := by
  cases hx : (s.handle id).inner with
  | none => simp [Handle.isActive, hx]
  | some x => simp [Handle.isActive, hx, Session.isActive, h.active hx]

end Sound

/-! ## An object is closed -/

/-- Closing an object that is open calls the finalizer of its session. -/
theorem Owns.calls_closeId (h : s.Owns id k l) (hs : s.Sound) {x : Session}
    (hx : (s.handle id).inner = some x) : (s.closeId id).process.calls =
      s.process.calls ++ [.finalize k (.library l) (s.process.active - 1) (.returned ())] := by
  have hmem : x ∈ s.sessions := mem_sessions.mpr ⟨id, hx⟩
  have hengine : x.engine = .library l := by
    have ho := hs.books.ledger.paired.opened x hmem
    rw [h.session x hx, h.engine] at ho
    exact (Option.some.inj ho).symm
  have hpos : 0 < s.process.active := hs.books.active ▸ List.length_pos_of_mem hmem
  have hcount := Process.uncount_active hpos
  rw [closeId_open hx]
  show (x.drop s.process).2.calls = _
  rw [Session.drop_library hengine (hs.active hx), h.session x hx,
    show s.process.uncount.active = s.process.active - 1 by omega]

theorem Sound.openings_closeId (h : s.Sound) (id : Nat) :
    openings (s.closeId id).process.calls = openings s.process.calls := by
  cases hx : (s.handle id).inner with
  | none => rw [closeId_closed hx]
  | some x =>
    obtain ⟨k, l, ho⟩ := h.owns id (lt_of_inner hx)
    rw [ho.calls_closeId h hx, openings_append]
    exact List.append_nil _

theorem Owns.closeId (h : s.Owns id k l) (hs : s.Sound) (j : Nat) : (s.closeId j).Owns id k l := by
  refine ⟨by rw [hs.openings_closeId]; exact h.place, ?_, ?_, fun x hx => ?_⟩
  · cases hx : (s.handle j).inner with
    | none => rw [closeId_closed hx]; exact h.engine
    | some x =>
      obtain ⟨k', l', ho⟩ := hs.owns j (lt_of_inner hx)
      rw [ho.calls_closeId hs hx]
      exact openedAt_append _ h.engine
  · rw [handle_closeId]
    split
    · next he => subst he; exact h.library
    · exact h.library
  · rw [handle_closeId] at hx
    split at hx
    · cases hx
    · exact h.session x hx

theorem Sound.closeId (h : s.Sound) (id : Nat) : (s.closeId id).Sound := by
  refine ⟨?_, h.named, by rw [h.openings_closeId, length_closeId]; exact h.number, fun j hj => ?_⟩
  · cases hx : (s.handle id).inner with
    | none => rw [closeId_closed hx]; exact h.books
    | some x =>
      have hp := h.books.pass (sessions_closeId hx)
      rw [closeId_open hx] at hp ⊢
      exact hp.drop
  · obtain ⟨k, l, ho⟩ := h.owns j (s.length_closeId id ▸ hj)
    exact ⟨k, l, ho.closeId h id⟩

/-! ## An object is made -/

/-- The call that opens the session of a new object adds one place to the openings. -/
theorem openings_opened {calls : List Call} (e : Engine) (args : List Bytes) (n : Nat) :
    openings (calls ++ [.init e args n (.returned ())]) = openings calls ++ [calls.length] := by
  rw [openings_append]
  rfl

theorem Owns.bind (h : s.Owns id k l) (hs : s.Sound) (name : String) (a : Handle) {q : Process}
    {e : Engine} {args : List Bytes} {n : Nat}
    (hc : q.calls = s.process.calls ++ [.init e args n (.returned ())]) :
    (s.bind name a q).Owns id k l := by
  have hhandle := handle_bind_old name a q (h.lt hs)
  refine ⟨?_, ?_, hhandle ▸ h.library, hhandle ▸ h.session⟩
  · show (openings q.calls)[id]? = some k
    rw [hc, openings_opened, List.getElem?_append_left (hs.number.symm ▸ h.lt hs)]
    exact h.place
  · show openedAt q.calls k = some (.library l)
    rw [hc]
    exact openedAt_append _ h.engine

/-- A new object owns the session that has just been opened. -/
theorem Sound.owns_new (h : s.Sound) (name : String) {q : Process} {args : List Bytes} {n : Nat}
    (hc : q.calls = s.process.calls ++ [.init (.library l) args n (.returned ())]) :
    (s.bind name (.opened s.process.calls.length l) q).Owns s.handles.length
      s.process.calls.length l := by
  have hhandle := s.handle_bind_new name (.opened s.process.calls.length l) q
  refine ⟨?_, ?_, by rw [hhandle, Handle.opened], fun x hx => ?_⟩
  · show (openings q.calls)[s.handles.length]? = some s.process.calls.length
    rw [hc, openings_opened, ← h.number, List.getElem?_concat_length]
  · show openedAt q.calls s.process.calls.length = some (.library l)
    simp [openedAt, hc]
  · rw [hhandle] at hx
    cases hx
    rfl

theorem Sound.bind (h : s.Sound) (name : String) {q : Process} {args : List Bytes}
    (ha : q.active = s.process.active + 1)
    (hc : q.calls = s.process.calls ++ [.init (.library l) args s.process.active (.returned ())]) :
    (s.bind name (.opened s.process.calls.length l) q).Sound := by
  have hsessions : (s.bind name (.opened s.process.calls.length l) q).sessions =
      s.sessions ++ [⟨s.process.calls.length, .library l, .active⟩] := by
    simp [sessions, State.bind, Handle.opened]
  refine ⟨⟨?_, ?_⟩, Script.nodup_bind _ h.named, ?_, fun id hid => ?_⟩
  · have hl := h.books.ledger.opened (.library l) args
    rw [← h.books.active, ← hc] at hl
    rw [hsessions]
    exact hl.pass (List.perm_append_singleton _ _).symm
  · rw [hsessions, List.length_append, ← h.books.active]
    exact ha
  · show (openings q.calls).length = (s.handles ++ [_]).length
    rw [hc, openings_opened, List.length_append, List.length_append, h.number]
    rfl
  · rcases Nat.lt_or_eq_of_le (Nat.le_of_lt_succ (by simpa [State.bind] using hid)) with hid | rfl
    · obtain ⟨k, l', ho⟩ := h.owns id hid
      exact ⟨k, l', ho.bind h name _ hc⟩
    · exact ⟨_, l, h.owns_new name hc⟩

end

/-! ## References kept -/

/-- Every open object is referred to. -/
def Kept (s : State) : Prop := ∀ id x, (s.handle id).inner = some x → s.Mentions id

namespace Kept

variable {s t : State} {name : String} {id : Nat}

theorem closeId (h : s.Kept) (id : Nat) : (s.closeId id).Kept := by
  intro j x hx
  rw [handle_closeId] at hx
  split at hx
  · cases hx
  · exact h j x hx

/-- It is enough to look at all objects but the one that is let go of. -/
theorem letGo (h : ∀ j, j ≠ id → ∀ x, (s.handle j).inner = some x → s.Mentions j) :
    (s.letGo id).Kept := by
  intro j x hx
  rcases s.letGo_cases id with ⟨hm, hs⟩ | ⟨-, hs⟩
  · rw [hs] at hx ⊢
    by_cases hj : j = id
    · exact hj ▸ hm
    · exact h j hj x hx
  · rw [hs] at hx ⊢
    rw [handle_closeId] at hx
    split at hx
    · cases hx
    · next hj => exact h j hj x hx

end Kept

/-- Taking a name from its object leaves all other objects as they are referred to. -/
theorem mentions_unname {s : State} (hn : (s.names.map (·.1)).Nodup) {name : String} {j : Nat}
    (hj : s.id? name ≠ some j) (hm : s.Mentions j) : (s.unname name).Mentions j := by
  refine hm.imp id fun ⟨n, hmem⟩ => ⟨n, List.mem_filter.mpr ⟨hmem, ?_⟩⟩
  have hne : n ≠ name := by
    rintro rfl
    exact hj (Script.lookup_of_mem hn hmem)
  simpa using hne

end State

end Host

end ScopedEngine
