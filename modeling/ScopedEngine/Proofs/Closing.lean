/-
  ScopedEngine.Proofs.Closing — which steps close which session objects.

  `Ends` says of a step whether it closes an object: by its name, at the end of its scope, or by
  taking the last reference to it. `After` is what a part of a run does to the objects there were
  before it, and `exec_after` proves it of every step, scopes included.
-/

import ScopedEngine.Proofs.Objects

namespace ScopedEngine.Host

open State

variable {linker : Linker} {s t u : State}

/-! ## Parts of runs -/

/-- From `s` to `t` the objects have been closed of which `ended` holds, and no others. -/
structure Closes (s t : State) (ended : Nat → Prop) : Prop where
  sound : s.Sound → t.Sound
  grows : s.handles.length ≤ t.handles.length
  owns : s.Sound → ∀ id k l, s.Owns id k l → t.Owns id k l
  active : ∀ id < s.handles.length,
    ((t.handle id).isActive = true ↔ (s.handle id).isActive = true ∧ ¬ ended id)

namespace Closes

variable {ended ended' : Nat → Prop}

theorem congr (h : Closes s t ended) (he : ∀ id < s.handles.length, (ended id ↔ ended' id)) :
    Closes s t ended' :=
  ⟨h.sound, h.grows, h.owns, fun id hid => by rw [h.active id hid, he id hid]⟩

theorem trans (h : Closes s t ended) (h' : Closes t u ended') :
    Closes s u fun id => ended id ∨ ended' id := by
  refine ⟨fun hs => h'.sound (h.sound hs), Nat.le_trans h.grows h'.grows,
    fun hs id k l ho => h'.owns (h.sound hs) id k l (h.owns hs id k l ho), fun id hid => ?_⟩
  rw [h'.active id (Nat.lt_of_lt_of_le hid h.grows), h.active id hid, not_or, and_assoc]

/-- A part that leaves the objects and the calls as they were. -/
theorem same (hc : t.process.calls = s.process.calls) (ha : t.process.active = s.process.active)
    (hh : t.handles = s.handles)
    (hn : (s.names.map (·.1)).Nodup → (t.names.map (·.1)).Nodup) : Closes s t fun _ => False :=
  ⟨fun hs => hs.same hc ha hh (hn hs.named), Nat.le_of_eq (by rw [hh]),
    fun _ id k l ho => ho.same hc hh,
    fun id _ => by rw [handle_congr hh, not_false_eq_true, and_true]⟩

theorem refl (s : State) : Closes s s fun _ => False := .same rfl rfl rfl fun hn => hn

theorem closeId (s : State) (id : Nat) : Closes s (s.closeId id) (· = id) := by
  refine ⟨fun hs => hs.closeId id, Nat.le_of_eq (s.length_closeId id).symm,
    fun hs j k l ho => ho.closeId hs id, fun j _ => ?_⟩
  rw [handle_closeId]
  split
  · next hj => simp [Handle.isActive, hj]
  · next hj => simp [hj]

theorem letGo (s : State) (id : Nat) :
    Closes s (s.letGo id) fun j => j = id ∧ ¬ s.Mentions id := by
  rcases s.letGo_cases id with ⟨hm, hs⟩ | ⟨hm, hs⟩
  · rw [hs]
    exact (refl s).congr fun j _ => by simp [hm]
  · rw [hs]
    exact (closeId s id).congr fun j _ => by simp [hm]

theorem unname (s : State) (name : String) : Closes s (s.unname name) fun _ => False :=
  .same rfl rfl rfl fun hn => hn.sublist (List.filter_sublist.map _)

/-- A scope closes its object after its body, if the body has not closed it. -/
theorem scope {id : Nat} (h : Closes (s.enter id) t ended) :
    Closes s (t.leave id) fun j => ended j ∨ j = id := by
  have henter : Closes s (s.enter id) fun _ => False := .same rfl rfl rfl fun hn => hn
  have hunhold : Closes (t.closeId id)
      { t.closeId id with held := (t.closeId id).held.erase id } fun _ => False :=
    .same rfl rfl rfl fun hn => hn
  refine ((henter.trans h).trans ((closeId t id).trans (hunhold.trans (letGo _ id)))).congr
    fun j _ => ?_
  constructor
  · rintro ((hf | he) | hj | hf | ⟨hj, -⟩)
    · exact hf.elim
    · exact .inl he
    · exact .inr hj
    · exact hf.elim
    · exact .inr hj
  · rintro (he | hj)
    · exact .inl (.inr he)
    · exact .inr (.inl hj)

end Closes

/-! ## Making -/

/-- The name's object before, if it had one, is let go of. -/
def State.letGoOf (old : Option Nat) (s : State) : State :=
  match old with
  | some id => s.letGo id
  | none => s

theorem State.letGoOf_cases (old : Option Nat) (s : State) :
    s.letGoOf old = s ∨ ∃ id, old = some id ∧ ¬ s.Mentions id ∧ s.letGoOf old = s.closeId id := by
  cases old with
  | none => exact .inl rfl
  | some id =>
    rcases s.letGo_cases id with ⟨-, h⟩ | ⟨hno, h⟩
    · exact .inl h
    · exact .inr ⟨id, rfl, hno, h⟩

/-- All that a step that makes an object can do. -/
theorem make_cases (linker : Linker) (name : String) (argv library : Option Value) (s : State) :
    (∃ e log n shared, make linker name argv library s =
        (.raised e, { s with process := { s.process with log := log, loads := n, shared := shared } }) ∧
      ∀ texts l, ¬ Accepts linker s.environment.lookup argv library s.process texts l) ∨
    ∃ texts l q, Accepts linker s.environment.lookup argv library s.process texts l ∧
      make linker name argv library s =
        (.description (describe (.opened s.process.calls.length l)),
          (s.bind name (.opened s.process.calls.length l) q).letGoOf (s.id? name)) ∧
      q.active = s.process.active + 1 ∧
      q.calls = s.process.calls ++
        [.init (.library l) (texts.map Utf8.encode) s.process.active (.returned ())] ∧
      q.recorder = s.process.recorder.callInit l.entries.init (.ofList (texts.map Utf8.encode)) := by
  rcases construct_cases linker s.environment.lookup argv library s.process with
    ⟨e, log, n, shared, hc, hno⟩ | ⟨texts, l, q, hacc, hc, hq⟩
  · exact .inl ⟨e, log, n, shared, by simp only [make, hc], hno⟩
  · refine .inr ⟨texts, l, q, hacc, ?_, hq⟩
    simp only [make, hc]
    rfl

/-! ## References -/

/-- References are left as they were found: those of the scopes around are the same, and every
    object that is open is still referred to. -/
def Refers (s t : State) : Prop := t.held = s.held ∧ (s.Sound → s.Kept → t.Kept)

theorem Refers.refl (s : State) : Refers s s := ⟨rfl, fun _ hk => hk⟩

/-- A new name keeps its object; the object the name had before is let go of. -/
theorem Refers.bind (s : State) (name : String) (h : Handle) (q : Process) :
    Refers s ((s.bind name h q).letGoOf (s.id? name)) := by
  have hothers : s.Sound → s.Kept → ∀ j, s.id? name ≠ some j → ∀ x,
      ((s.bind name h q).handle j).inner = some x → (s.bind name h q).Mentions j := by
    intro hs hk j hj x hx
    rcases Nat.lt_trichotomy j s.handles.length with hlt | rfl | hgt
    · rw [handle_bind_old _ _ _ hlt] at hx
      exact (mentions_bind _ _ hlt).mpr (mentions_unname hs.named hj (hk j x hx))
    · exact .inr ⟨name, List.mem_cons_self⟩
    · have hl := lt_of_inner hx
      simp only [State.bind, List.length_append, List.length_singleton] at hl
      omega
  cases hold : s.id? name with
  | none => exact ⟨rfl, fun hs hk j x hx => hothers hs hk j (by simp [hold]) x hx⟩
  | some old =>
    refine ⟨held_letGo _ _, fun hs hk => Kept.letGo fun j hj => hothers hs hk j ?_⟩
    rw [hold, ne_eq, Option.some.injEq]
    exact fun he => hj he.symm

theorem Refers.release {name : String} {id : Nat} (h : s.id? name = some id) :
    Refers s ((s.unname name).letGo id) := by
  refine ⟨held_letGo _ _, fun hs hk => Kept.letGo fun j hj x hx => ?_⟩
  refine mentions_unname hs.named ?_ (hk j x hx)
  rw [h, ne_eq, Option.some.injEq]
  exact fun he => hj he.symm

/-- An object that leaves its scope has been closed, and needs no reference any more. -/
theorem Refers.scope {id : Nat} (h : Refers (s.enter id) t) : Refers s (t.leave id) := by
  obtain ⟨hheld, hkept⟩ := h
  refine ⟨?_, fun hs hk => ?_⟩
  · rw [leave, held_letGo]
    show t.held.erase id = s.held
    rw [hheld]
    exact List.erase_cons_head id s.held
  · have henter : (s.enter id).Kept := fun j x hx => (hk j x hx).imp_left (List.mem_cons_of_mem _)
    have ht := hkept (hs.same rfl rfl rfl hs.named) henter
    refine Kept.letGo fun j hj x hx => ?_
    exact (ht.closeId id j x hx).imp_left (List.mem_erase_of_ne hj).mpr

/-! ## Steps -/

mutual

/-- The step closes the object, or would if it were open. -/
def Ends (linker : Linker) (id : Nat) : Step → State → Prop
  | .make name argv library, s => s.Last name id ∧
    ∃ texts l, Accepts linker s.environment.lookup argv library s.process texts l
  | .close name, s => s.id? name = some id
  | .exit name arguments, s => s.id? name = some id ∧ arguments ≤ 3
  | .release name, s => s.Last name id
  | .scope name body _, s =>
    ∃ j, s.id? name = some j ∧ (RunEnds linker id body (s.enter j) ∨ id = j)
  | _, _ => False

/-- One of the steps does. -/
def RunEnds (linker : Linker) (id : Nat) : List Step → State → Prop
  | [], _ => False
  | step :: steps, s => Ends linker id step s ∨ RunEnds linker id steps (exec linker step s).2

end

theorem exec_scope {name : String} {id : Nat} (h : s.id? name = some id) (body : List Step)
    (raises : Option String) : exec linker (.scope name body raises) s =
      (.scoped (raises.elim .nothing fun m => .raised (.value m))
        (((run linker body (s.enter id)).2).leave id).process.active true
        (run linker body (s.enter id)).1, ((run linker body (s.enter id)).2).leave id) := by
  cases raises <;> simp only [exec, h] <;> rfl

/-- What a part of a run does: it closes what it ends, and leaves references as it found them. -/
structure After (s t : State) (ended : Nat → Prop) : Prop where
  closes : Closes s t ended
  refers : Refers s t

namespace After

variable {ended ended' : Nat → Prop}

theorem congr (h : After s t ended) (he : ∀ id, ended id ↔ ended' id) : After s t ended' :=
  ⟨h.closes.congr fun id _ => he id, h.refers⟩

theorem trans (h : After s t ended) (h' : After t u ended') :
    After s u fun id => ended id ∨ ended' id :=
  ⟨h.closes.trans h'.closes, h'.refers.1.trans h.refers.1,
    fun hs hk => h'.refers.2 (h.closes.sound hs) (h.refers.2 hs hk)⟩

/-- Nothing is done and nothing ended. -/
theorem idle (he : ∀ id, ¬ ended id) : After s s ended :=
  ⟨(Closes.refl s).congr fun id _ => by simp [he id], .refl s⟩

/-- A step about the object of a name, for which there may be none. -/
theorem named {name : String} {f : Nat → State → Result × State}
    (h : ∀ j, s.id? name = some j → After s (f j s).2 fun id => id = j ∧ ended id) :
    After s (withNamed name f s).2 fun id => s.id? name = some id ∧ ended id := by
  unfold withNamed
  cases hx : s.id? name with
  | none => exact idle (by simp)
  | some j =>
    refine ⟨(h j hx).closes.congr fun id _ => ?_, (h j hx).refers⟩
    rw [Option.some.injEq, eq_comm]

theorem closeId (s : State) (id : Nat) : After s (s.closeId id) (· = id) :=
  ⟨.closeId s id, rfl, fun _ hk => hk.closeId id⟩

theorem release {name : String} {id : Nat} (h : s.id? name = some id) :
    After s ((s.unname name).letGo id) fun j => j = id ∧ ¬ (s.unname name).Mentions j := by
  refine ⟨((Closes.unname s name).trans (.letGo _ id)).congr fun j _ => ?_, .release h⟩
  rw [false_or]
  exact and_congr_right fun hj => by rw [hj]

theorem make (name : String) (argv library : Option Value) (s : State) :
    After s (make linker name argv library s).2 fun id =>
      Ends linker id (.make name argv library) s := by
  rcases make_cases linker name argv library s with
    ⟨e, log, n, shared, hm, hno⟩ | ⟨texts, l, q, hacc, hm, ha, hc, -⟩
  · rw [hm]
    have hsame : Closes s { s with process :=
        { s.process with log := log, loads := n, shared := shared } } fun _ => False :=
      .same rfl rfl rfl fun hn => hn
    exact ⟨hsame.congr fun id _ => by simp [Ends, hno], .refl s⟩
  · rw [hm]
    refine ⟨?_, .bind s name _ q⟩
    have hbind : Closes s (s.bind name (.opened s.process.calls.length l) q) fun _ => False := by
      refine ⟨fun hs => hs.bind name ha hc, by simp [State.bind],
        fun hs id k l' ho => ho.bind hs name _ hc, fun id hid => ?_⟩
      rw [handle_bind_old _ _ _ hid, not_false_eq_true, and_true]
    cases hold : s.id? name with
    | none => exact hbind.congr fun id _ => by simp [Ends, Last, hold]
    | some old =>
      refine (hbind.trans (.letGo _ old)).congr fun id hid => ?_
      simp only [Ends, Last, hold, Option.some.injEq, false_or]
      constructor
      · rintro ⟨rfl, hn⟩
        exact ⟨⟨rfl, fun hm => hn ((mentions_bind _ _ hid).mpr hm)⟩, texts, l, hacc⟩
      · rintro ⟨⟨rfl, hn⟩, -⟩
        exact ⟨rfl, fun hm => hn ((mentions_bind _ _ hid).mp hm)⟩

/-- A step that only looks at the object of a name. -/
theorem looks {name : String} {f : Nat → State → Result × State} (hf : ∀ j, (f j s).2 = s) :
    After s (withNamed name f s).2 fun _ => False := by
  unfold withNamed
  split
  · exact idle (by simp)
  · next j hx =>
    rw [hf]
    exact idle (by simp)

end After

mutual

/-- A step closes the objects that it ends, and no others. -/
theorem exec_after : (step : Step) → (s : State) →
    After s (exec linker step s).2 fun id => Ends linker id step s
  | .make name argv library, s => by
    unfold exec
    exact .make name argv library s
  | .state name, s => by
    unfold exec
    exact .looks fun _ => rfl
  | .close name, s => by
    unfold exec
    have hclose : ∀ j, s.id? name = some j → After s (s.closeId j) fun id => id = j ∧ True :=
      fun j _ => (After.closeId s j).congr fun id => by rw [and_true]
    exact (After.named hclose).congr fun id => by rw [and_true, Ends]
  | .enter name, s => by
    unfold exec
    exact .looks fun _ => rfl
  | .exit name n, s => by
    unfold exec
    refine After.named fun j _ => ?_
    split
    · next hn => exact .idle fun id h => Nat.not_le_of_lt hn h.2
    · next hn => exact (After.closeId s j).congr fun id => by simp [Nat.le_of_not_lt hn]
  | .scope name body raises, s => by
    cases hx : s.id? name with
    | none =>
      simp only [exec, hx]
      exact .idle fun id => by simp [Ends, hx]
    | some j =>
      rw [exec_scope hx]
      have hbody := run_after body (s.enter j)
      exact ⟨(Closes.scope hbody.closes).congr fun id _ => by simp [Ends, hx], .scope hbody.refers⟩
  | .release name, s => by
    unfold exec
    exact .named fun j hj => .release hj
  | .assign name, s => by
    unfold exec
    exact .looks fun _ => rfl
  | .setEnvironment changes, s => ⟨.same rfl rfl rfl fun hn => hn, .refl s⟩
  | .active, s => .idle fun _ => id
  | .about, s => .idle fun _ => id
  | .recorder, s => .idle fun _ => id
  | .unknown, s => .idle fun _ => id

theorem run_after : (steps : List Step) → (s : State) →
    After s (run linker steps s).2 fun id => RunEnds linker id steps s
  | [], s => .idle fun _ => id
  | step :: steps, s => by
    unfold run RunEnds
    exact (exec_after step s).trans (run_after steps (exec linker step s).2)

end

end ScopedEngine.Host
