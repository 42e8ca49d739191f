/-
  ScopedEngine.Proofs.Lives — the life of session objects, at every point of every script.

  Objects may be made, closed, entered, left and let go of in any order and any number of times.
  Main result, `objects_live_once`: an object whose making raised has called no entry point; any
  other has called its initializer once; its finalizer is called once, by the step that closes it
  first; it is active before that and not after; and as many sessions are counted as objects are
  active.
-/

import ScopedEngine.Proofs.Closing

namespace ScopedEngine.Host

open State

variable {linker : Linker} {s : State}

/-! ## Points -/

/-- The states that scripts pass, at any depth of scopes. -/
inductive Point (linker : Linker) : State → Prop
  | fresh (env : Config.Environment) : Point linker (.fresh env)
  | exec {s : State} (step : Step) : Point linker s → Point linker (exec linker step s).2
  /-- Inside a scope, before its body. -/
  | enter {s : State} {name : String} {id : Nat} : Point linker s → s.id? name = some id →
      Point linker (s.enter id)

theorem sound_fresh (env : Config.Environment) : (fresh env).Sound :=
  ⟨⟨.nil, rfl⟩, .nil, rfl, fun _ h => by cases h⟩

namespace Point

theorem sound (h : Point linker s) : s.Sound := by
  induction h with
  | fresh env => exact sound_fresh env
  | exec step _ ih => exact (exec_after step _).closes.sound ih
  | enter _ _ ih => exact ih.same rfl rfl rfl ih.named

theorem kept (h : Point linker s) : s.Kept := by
  induction h with
  | fresh env => exact fun id x hx => by simp [State.handle, State.fresh] at hx
  | exec step h ih => exact (exec_after step _).refers.2 h.sound ih
  | enter _ _ ih => exact fun id x hx => (ih id x hx).imp_left (List.mem_cons_of_mem _)

theorem run (h : Point linker s) (steps : List Step) : Point linker (run linker steps s).2 := by
  induction steps generalizing s with
  | nil => exact h
  | cons step steps ih =>
    unfold Host.run
    exact ih (h.exec step)

end Point

/-! ## What an object shows -/

namespace State

/-- An object is active as long as no finalizer has been called for its session. -/
theorem Owns.isActive_iff {id k : Nat} {l : Library} (h : s.Owns id k l) (hs : s.Sound) :
    (s.handle id).isActive = true ↔ endings s.process.calls k = 0 := by
  have hp := hs.books.ledger.paired
  rw [hs.isActive_iff]
  constructor
  · rintro ⟨x, hx⟩
    rw [← h.session x hx]
    exact hp.pending x (mem_sessions.mpr ⟨id, hx⟩)
  · intro h0
    by_contra hn
    -- The session of another object stands at another place, so nobody holds the one at `k`.
    have hfree : ∀ x ∈ s.sessions, x.place ≠ k := by
      rintro x hx rfl
      obtain ⟨j, hj⟩ := mem_sessions.mp hx
      obtain ⟨k', l', ho⟩ := hs.owns j (lt_of_inner hj)
      have hplace := ho.place
      rw [← ho.session x hj, ← h.place] at hplace
      have hlt : j < (openings s.process.calls).length := hs.number.symm ▸ lt_of_inner hj
      obtain rfl := (List.getElem?_inj hlt (openings_nodup _)).mp hplace
      exact hn ⟨x, hj⟩
    have := hp.once k _ h.engine hfree
    omega

theorem Sound.count (h : s.Sound) : s.process.active = s.handles.countP Handle.isActive := by
  rw [h.books.active, sessions, List.length_filterMap_eq_countP]
  refine List.countP_congr fun a ha => ?_
  obtain ⟨id, hid, rfl⟩ := List.getElem_of_mem ha
  rw [← handle_of_lt hid, h.isActive_iff, Option.isSome_iff_exists]

end State

/-! ## The end -/

theorem names_releaseNamed (name : String) (s : State) :
    (releaseNamed name s).2.names = s.names.filter (·.1 ≠ name) := by
  unfold releaseNamed withNamed
  cases hx : s.id? name with
  | none => exact (Script.filter_of_lookup_eq_none hx).symm
  | some id => exact names_letGo _ _

/-- Letting go of names is a script. -/
theorem foldl_release (linker : Linker) (names : List String) (s : State) :
    names.foldl (fun s name => (releaseNamed name s).2) s =
      (run linker (names.map .release) s).2 := by
  induction names generalizing s with
  | nil => rfl
  | cons name names ih =>
    rw [List.foldl_cons, ih, List.map_cons]
    simp only [run, exec]
    rfl

theorem names_foldl_release (names : List String) (s : State) :
    (names.foldl (fun s name => (releaseNamed name s).2) s).names =
      s.names.filter (·.1 ∉ names) := by
  induction names generalizing s with
  | nil => simp
  | cons name names ih =>
    rw [List.foldl_cons, ih, names_releaseNamed, List.filter_filter]
    refine List.filter_congr fun x _ => ?_
    simp [Bool.and_comm]

/-- Outside of scopes, no object is open when all names have gone. -/
theorem Point.released (h : Point linker s) (hheld : s.held = []) :
    Point linker (releaseAll s) ∧ (releaseAll s).sessions = [] := by
  have hpoint : Point linker (releaseAll s) := by
    unfold releaseAll
    rw [foldl_release linker]
    exact h.run _
  refine ⟨hpoint, List.eq_nil_iff_forall_not_mem.mpr fun x hx => ?_⟩
  obtain ⟨id, hid⟩ := mem_sessions.mp hx
  have hheld' : (releaseAll s).held = [] := by
    unfold releaseAll
    rw [foldl_release linker, (run_after _ s).refers.1, hheld]
  have hnames : (releaseAll s).names = [] := by
    unfold releaseAll
    rw [names_foldl_release]
    refine List.filter_eq_nil_iff.mpr fun y hy => ?_
    simpa using ⟨y.2, hy⟩
  rcases hpoint.kept id x hid with hm | ⟨name, hm⟩
  · rw [hheld'] at hm
    cases hm
  · rw [hnames] at hm
    cases hm

/-! ## Lives -/

/-- From `s` to `t` an object has been made under a name: its initializer has been called, and then
    the finalizer of the object that had the name, if that was the last reference to it. -/
structure Made (s t : State) (name : String) (l : Library) (args : List Bytes) : Prop where
  number : t.handles.length = s.handles.length + 1
  named : t.id? name = some s.handles.length
  owns : t.Owns s.handles.length s.process.calls.length l
  active : (t.handle s.handles.length).isActive = true
  calls : ∃ rest, t.process.calls = s.process.calls ++
      .init (.library l) args s.process.active (.returned ()) :: rest ∧
    (rest = [] ∨ ∃ old k l', s.Last name old ∧ s.Owns old k l' ∧
      rest = [.finalize k (.library l') s.process.active (.returned ())])

theorem State.Sound.made (h : s.Sound) (name : String) {l : Library} {args : List Bytes} {q : Process}
    (ha : q.active = s.process.active + 1)
    (hc : q.calls = s.process.calls ++ [.init (.library l) args s.process.active (.returned ())]) :
    Made s ((s.bind name (.opened s.process.calls.length l) q).letGoOf (s.id? name)) name l args := by
  have hsound := h.bind name ha hc
  have howns := h.owns_new name hc
  have hnew := s.handle_bind_new name (.opened s.process.calls.length l) q
  have hnum : (s.bind name (.opened s.process.calls.length l) q).handles.length =
      s.handles.length + 1 := by simp [State.bind]
  rcases (s.bind name (.opened s.process.calls.length l) q).letGoOf_cases (s.id? name) with
    hb | ⟨old, hold, hno, hb⟩
  · rw [hb]
    exact ⟨hnum, List.lookup_cons_self, howns, by rw [hnew]; rfl, [], hc, .inl rfl⟩
  · rw [hb]
    have hne : s.handles.length ≠ old := by
      rintro rfl
      exact hno (.inr ⟨name, List.mem_cons_self⟩)
    refine ⟨by rw [length_closeId, hnum], List.lookup_cons_self, howns.closeId hsound old,
      by rw [handle_closeId, if_neg hne, hnew]; rfl, ?_⟩
    cases hx : ((s.bind name (.opened s.process.calls.length l) q).handle old).inner with
    | none =>
      rw [closeId_closed hx]
      exact ⟨[], hc, .inl rfl⟩
    | some x =>
      have hlt : old < s.handles.length := by
        have := lt_of_inner hx
        omega
      obtain ⟨k, l', ho⟩ := h.owns old hlt
      rw [(ho.bind h name _ hc).calls_closeId hsound hx]
      refine ⟨[.finalize k (.library l') s.process.active (.returned ())], ?_,
        .inr ⟨old, k, l', ⟨hold, fun hm => hno ((mentions_bind _ _ hlt).mpr hm)⟩, ho, rfl⟩⟩
      show q.calls ++ [.finalize k (.library l') (q.active - 1) (.returned ())] = _
      rw [hc, ha, List.append_assoc]
      rfl

/-- What an object shows of itself, when it is active or not. -/
def shown (active : Bool) (library : String) : Description :=
  ⟨active, library, "Session(library='" ++ library ++ "', active=" ++ (if active then "True" else "False")
    ++ ")"⟩

theorem describe_eq (h : Handle) : describe h = shown h.isActive h.library := by
  unfold describe shown Handle.repr
  rfl

/-- Session objects live once. As many sessions are counted as objects are active, and each object
    owns the session that one call has opened; it shows itself active as long as the finalizer of
    that session has not been called, and it is never called twice.
    - Making an object raises, and changes nothing but the log and the libraries loaded; or it calls
      the initializer with the bytes of the texts, in order.
    - A step closes the objects that it ends (`Ends`) and no others. Closing an object calls its
      finalizer if the object is active, and does nothing at all otherwise.
    - Leaving a scope swallows no exception.
    - When a script is over and the last object gone, every session has been ended, once. -/
theorem objects_live_once (h : Point linker s) :
    s.process.active = s.handles.countP Handle.isActive ∧
    (openings s.process.calls).length = s.handles.length ∧
    (∀ id < s.handles.length, ∃ k l, s.Owns id k l ∧ endings s.process.calls k ≤ 1 ∧
      describe (s.handle id) = shown (endings s.process.calls k = 0) l.path ∧
      ((s.handle id).isActive = true → (s.closeId id).process.calls = s.process.calls ++
        [.finalize k (.library l) (s.process.active - 1) (.returned ())]) ∧
      ((s.handle id).isActive = false → s.closeId id = s)) ∧
    (∀ name argv library,
      (∃ e log n shared, make linker name argv library s = (.raised e,
          { s with process := { s.process with log := log, loads := n, shared := shared } }) ∧
        ∀ texts l, ¬ Accepts linker s.environment.lookup argv library s.process texts l) ∨
      ∃ texts l t, Accepts linker s.environment.lookup argv library s.process texts l ∧
        make linker name argv library s = (.description (shown true l.path), t) ∧
        Made s t name l (texts.map Utf8.encode)) ∧
    (∀ step, ∀ id k l, s.Owns id k l → (exec linker step s).2.Owns id k l ∧
      (((exec linker step s).2.handle id).isActive = true ↔
        (s.handle id).isActive = true ∧ ¬ Ends linker id step s)) ∧
    (∀ name id, s.id? name = some id →
      exec linker (.state name) s =
        (.plain (.description (describe (s.handle id))) s.process.active, s) ∧
      exec linker (.close name) s = (.plain .nothing (s.closeId id).process.active, s.closeId id) ∧
      (∀ n ≤ 3, exec linker (.exit name n) s =
        (.plain (.flag false) (s.closeId id).process.active, s.closeId id)) ∧
      ∀ body m, ∃ n inside,
        (exec linker (.scope name body (some m)) s).1 = .scoped (.raised (.value m)) n true inside) ∧
    ∀ env steps, (runAll linker env steps).2.active = 0 ∧
      ∀ k e, openedAt (runAll linker env steps).2.calls k = some e →
        endings (runAll linker env steps).2.calls k = 1 := by
  have hs := h.sound
  refine ⟨hs.count, hs.number, ?_, ?_, ?_, ?_, ?_⟩
  · intro id hid
    obtain ⟨k, l, ho⟩ := hs.owns id hid
    have hactive : (s.handle id).isActive = decide (endings s.process.calls k = 0) := by
      rw [Bool.eq_iff_iff, ho.isActive_iff hs, decide_eq_true_iff]
    refine ⟨k, l, ho, hs.books.ledger.paired.endings_le_one k, ?_, ?_, ?_⟩
    · rw [describe_eq, hactive, ho.library]
    · intro ha
      obtain ⟨x, hx⟩ := (hs.isActive_iff id).mp ha
      exact ho.calls_closeId hs hx
    · intro ha
      apply closeId_closed
      cases hx : (s.handle id).inner with
      | none => rfl
      | some x =>
        rw [(hs.isActive_iff id).mpr ⟨x, hx⟩] at ha
        cases ha
  · intro name argv library
    rcases make_cases linker name argv library s with
      hraised | ⟨texts, l, q, hacc, hm, ha, hc, -⟩
    · exact .inl hraised
    · refine .inr ⟨texts, l, _, hacc, ?_, hs.made name ha hc⟩
      rw [hm, describe_eq]
      rfl
  · intro step id k l ho
    have hclose : Closes s (exec linker step s).2 fun id => Ends linker id step s :=
      (exec_after step s).closes
    exact ⟨hclose.owns hs id k l ho, hclose.active id (ho.lt hs)⟩
  · intro name id hid
    refine ⟨?_, ?_, ?_, ?_⟩
    · simp only [exec, withNamed, hid]
      rfl
    · simp only [exec, withNamed, hid]
      rfl
    · intro n hn
      simp only [exec, withNamed, hid, Nat.not_lt.mpr hn, if_false]
      rfl
    · intro body m
      rw [exec_scope hid]
      exact ⟨_, _, rfl⟩
  · intro env steps
    have hpoint : Point linker (run linker steps (.fresh env)).2 := (Point.fresh env).run steps
    have hheld : (run linker steps (.fresh env)).2.held = [] := (run_after steps _).refers.1
    obtain ⟨hend, hnone⟩ := hpoint.released hheld
    have hbooks := hend.sound.books
    rw [hnone] at hbooks
    have hall : (runAll linker env steps).2 =
        (releaseAll (run linker steps (.fresh env)).2).process := rfl
    rw [hall]
    refine ⟨hbooks.active, ?_⟩
    intro k e hk
    exact hbooks.ledger.paired.once k e hk (by simp)

/-- Two objects on one library, and one that is refused. The scope of the first is left by an
    exception; it has been closed before, and the second has lost its name. -/
def visit : List Step :=
  [.make "a" (some (.list [.ofText ['k']])) (some (.ofText ['/', 'm'])),
   .make "b" (some (.tuple [])) (some (.ofText ['/', '/', 'm'])),
   .make "c" (some (.list [.ofText ['k'], .number])) none,
   .scope "a" [.close "a", .release "b"] (some "halt")]

theorem visit_objects_live_once :
    let s := (run (.ofFiles ⟨.directory [([0x6D], .image "mock")], []⟩) visit (.fresh [])).2
    let l : Library := ⟨0, "/m", .default, ⟨.init, .finalize⟩⟩
    s.process.calls =
      [.init (.library l) [[0x6B]] 0 (.returned ()), .init (.library l) [] 1 (.returned ()),
       .finalize 0 (.library l) 1 (.returned ()), .finalize 1 (.library l) 0 (.returned ())] ∧
    s.process.active = s.handles.countP Handle.isActive :=
  ⟨by decide +kernel, (objects_live_once ((Point.fresh []).run visit)).1⟩

end ScopedEngine.Host
