/-
  ScopedEngine.Proofs.Sessions — sessions over whole runs: paired calls and an exact count.

  Engines may panic in any initializer and any finalizer. Main results, for every point of every
  script:
  - `finalized_exactly_once`: for a session whose initializer returned a finalizer is called once,
    when it is let go of, on the engine it was opened on, and never again.
  - `active_is_exact`: the count of active sessions is the number of sessions alive, also while an
    initializer or a finalizer runs; it is never counted down from zero.

  Three steps let go of sessions by their names: to close, to drop and to unwind past them. All
  three come to one thing (`State.without`), for the sessions that have the names
  (`State.sessionsNamed`).
-/

import ScopedEngine.Proofs.Pairing
import ScopedEngine.Proofs.Points

namespace ScopedEngine.Script

variable {ρ : Type} {linker : Linker} {scopes : List Session} {s : State}

theorem Point.balanced (h : Point ρ linker scopes s) : Balanced (s.held scopes) s.process :=
  h.reach.balanced

theorem Point.active (h : Point ρ linker scopes s) {x : Session} (hx : x ∈ s.held scopes) :
    x.state = .active :=
  h.balanced.ledger.paired.active x hx

/-! ## Letting go by name -/

/-- The sessions that have these names, in the order of the names, each once. -/
def State.sessionsNamed (names : List String) (s : State) : List Session :=
  names.eraseDups.filterMap s.session?

/-- The sessions with these names are let go of, one after the other. -/
def State.without (names : List String) (s : State) : State :=
  { s with
    sessions := s.sessions.filter (·.1 ∉ names)
    process := Session.unwind (s.sessionsNamed names) s.process }

/-- A name that has nothing can be left out. -/
theorem filterMap_eraseDups {α : Type} {f : String → Option α} {name : String} (h : f name = none)
    (names : List String) :
    (names.filter fun n => !n == name).eraseDups.filterMap f = names.eraseDups.filterMap f := by
  induction hl : names.length using Nat.strongRecOn generalizing names with
  | ind l ih =>
    cases names with
    | nil => rfl
    | cons m names =>
      by_cases hm : m = name
      · subst hm
        rw [List.filter_cons_of_neg (by simp), List.eraseDups_cons, List.filterMap_cons_none h]
      · have hshort : (names.filter fun n => !n == m).length < l := by
          rw [← hl, List.length_cons]
          exact Nat.lt_succ_of_le (List.length_filter_le _ _)
        have hrest := ih _ hshort (names.filter fun n => !n == m) rfl
        rw [List.filter_comm] at hrest
        rw [List.filter_cons_of_pos (by simpa using hm), List.eraseDups_cons, List.eraseDups_cons,
          List.filterMap_cons, List.filterMap_cons, hrest]

theorem sessionsNamed_cons_none {name : String} (h : s.session? name = none) (names : List String) :
    s.sessionsNamed (name :: names) = s.sessionsNamed names := by
  rw [State.sessionsNamed, List.eraseDups_cons, List.filterMap_cons_none h, filterMap_eraseDups h]
  rfl

theorem sessionsNamed_cons_some {name : String} {x : Session} (h : s.session? name = some x)
    (names : List String) :
    s.sessionsNamed (name :: names) = x :: (s.forgetSession name).sessionsNamed names := by
  have hgone : (s.forgetSession name).session? name = none := by
    rw [State.session?, List.lookup_eq_none_iff]
    intro y hy
    have hne : y.1 ≠ name := by simpa using (List.mem_filter.mp hy).2
    simpa using hne.symm
  have hothers : ∀ other ∈ (names.filter fun n => !n == name).eraseDups,
      s.session? other = (s.forgetSession name).session? other := by
    intro other hother
    have hne : other ≠ name := by simpa using (List.mem_filter.mp (List.mem_eraseDups.mp hother)).2
    exact (lookup_filter hne).symm
  rw [State.sessionsNamed, List.eraseDups_cons, List.filterMap_cons_some h,
    List.filterMap_congr hothers, filterMap_eraseDups hgone]
  rfl

/-- Taking sessions from their names leaves all others. -/
theorem takeSessions_eq (names : List String) (s : State) :
    takeSessions names s =
      (s.sessionsNamed names, { s with sessions := s.sessions.filter (·.1 ∉ names) }) := by
  induction names generalizing s with
  | nil => simp [takeSessions, State.sessionsNamed]
  | cons name names ih =>
    unfold takeSessions
    cases hx : s.session? name with
    | none =>
      have hfree : s.sessions.filter (·.1 ∉ name :: names) = s.sessions.filter (·.1 ∉ names) := by
        refine List.filter_congr ?_
        intro y hy
        have hne : name ≠ y.1 := by simpa using List.lookup_eq_none_iff.mp hx y hy
        simp [hne.symm]
      rw [sessionsNamed_cons_none hx, hfree]
      exact ih s
    | some x =>
      have hleft : (s.forgetSession name).sessions.filter (·.1 ∉ names) =
          s.sessions.filter (·.1 ∉ name :: names) := by
        rw [State.forgetSession, List.filter_filter]
        refine List.filter_congr ?_
        intro y hy
        simp [Bool.and_comm]
      rw [sessionsNamed_cons_some hx, ← hleft]
      dsimp only
      rw [ih (s.forgetSession name)]
      rfl

theorem exec_unwind (names : List String) (panic : String) (s : State) :
    exec linker (.unwind names panic : Step ρ) s = (.panicked panic, s.without names) := by
  unfold exec
  rw [takeSessions_eq]
  rfl

/-- Ending one session is letting go of it, whether it is closed or dropped. -/
theorem endNamed_state {how : Session → Process → Outcome Unit × Process}
    (hhow : ∀ x p, how x p = x.drop p) (name : String) (s : State) :
    (endNamed name how s : Result ρ × State).2 = s.without [name] := by
  have hfree : s.sessions.filter (·.1 ∉ [name]) = s.sessions.filter (·.1 ≠ name) :=
    List.filter_congr fun y _ => by simp
  unfold endNamed
  cases hx : s.session? name with
  | none =>
    rw [State.without, sessionsNamed_cons_none hx, hfree, filter_of_lookup_eq_none hx]
    rfl
  | some x =>
    dsimp only
    rw [State.without, sessionsNamed_cons_some hx, hfree, onProcess_state, hhow]
    rfl

theorem exec_close (name : String) (s : State) :
    (exec linker (.close name : Step ρ) s).2 = s.without [name] := by
  unfold exec
  exact endNamed_state Session.close_eq_drop name s

theorem exec_drop (name : String) (s : State) :
    (exec linker (.drop name : Step ρ) s).2 = s.without [name] := by
  unfold exec
  exact endNamed_state (fun _ _ => rfl) name s

/-- A call of the finalizer of a session. -/
def EndedBy (x : Session) (c : Call) : Prop := ∃ n o, c = .finalize x.place x.engine n o

/-- Sessions let go of while a panic unwinds are ended in order, each once, and counted down. -/
theorem unwind_active {xs : List Session} (hx : ∀ x ∈ xs, x.state = .active) (p : Process)
    (hn : xs.length ≤ p.active) :
    (∃ ends, (Session.unwind xs p).calls = p.calls ++ ends ∧ List.Forall₂ EndedBy xs ends) ∧
      (Session.unwind xs p).active + xs.length = p.active := by
  induction xs generalizing p with
  | nil => exact ⟨⟨[], by rw [List.append_nil]; rfl, .nil⟩, rfl⟩
  | cons x xs ih =>
    rw [List.length_cons] at hn
    obtain ⟨o, probes, hd⟩ := Session.drop_active (hx x List.mem_cons_self) p
    have hcount : (x.drop p).2.active + 1 = p.active := by
      rw [hd]
      exact Process.uncount_active (by omega)
    have hcalls : (x.drop p).2.calls =
        p.calls ++ [.finalize x.place x.engine p.uncount.active o] := by rw [hd]
    have hrest : ∀ y ∈ xs, y.state = .active := by
      intro y hy
      exact hx y (List.mem_cons_of_mem _ hy)
    obtain ⟨⟨ends, hends, hpairs⟩, hactive⟩ := ih hrest (x.drop p).2 (by omega)
    refine ⟨⟨.finalize x.place x.engine p.uncount.active o :: ends, ?_, ?_⟩, ?_⟩
    · rw [Session.unwind, hends, hcalls, List.append_assoc, List.singleton_append]
    · exact .cons ⟨_, _, rfl⟩ hpairs
    · rw [Session.unwind, List.length_cons]
      omega

/-- From `s` to `t` the sessions with these names have been let go of: the names are free, and the
    finalizers have been called, each once, on the engines the sessions were opened on. -/
structure LetsGo (names : List String) (s t : State) : Prop where
  sessions : t.sessions = s.sessions.filter (·.1 ∉ names)
  calls : ∃ ends, t.process.calls = s.process.calls ++ ends ∧
    List.Forall₂ EndedBy (s.sessionsNamed names) ends

theorem Point.without (h : Point ρ linker scopes s) (names : List String) :
    LetsGo names s (s.without names) ∧
      (s.without names).process.active + (s.sessionsNamed names).length = s.process.active := by
  obtain ⟨-, hp, -, -⟩ := takeSessions_spec scopes names s h.named_reach.1
  rw [takeSessions_eq] at hp
  have hactive : ∀ x ∈ s.sessionsNamed names, x.state = .active := by
    intro x hx
    exact h.active (hp.mem_iff.mpr (List.mem_append_left _ hx))
  have hn : (s.sessionsNamed names).length ≤ s.process.active := by
    rw [h.balanced.active, hp.length_eq, List.length_append]
    exact Nat.le_add_right _ _
  obtain ⟨hcalls, hcount⟩ := unwind_active hactive s.process hn
  exact ⟨⟨rfl, hcalls⟩, hcount⟩

/-! ## Calls in pairs -/

/-- Held sessions and finalizer calls share out the sessions that were opened, engine by engine.
    An initializer that panicked is answered by no finalizer. Letting go of a session calls its
    finalizer on its engine, whatever that comes to, and so do the steps that close, drop or unwind
    past sessions by their names, for these sessions and no others. No later step calls it again;
    once the sessions left at the end are let go of, every session that was opened has been ended
    once. -/
theorem finalized_exactly_once (h : Point ρ linker scopes s) :
    Paired (s.held scopes) s.process.calls ∧
    (∀ e, s.process.calls.countP (·.opened? = some e) =
      s.process.calls.countP (·.finalized? = some e) + (s.held scopes).countP (·.engine = e)) ∧
    (∀ k e args n m, s.process.calls[k]? = some (.init e args n (.panicked m)) →
      endings s.process.calls k = 0 ∧ ∀ x ∈ s.held scopes, x.place ≠ k) ∧
    (∀ x ∈ s.held scopes, x.close s.process = x.drop s.process ∧ ∃ n,
      (x.drop s.process).2.calls =
        s.process.calls ++ [.finalize x.place x.engine n (x.drop s.process).1]) ∧
    (∀ name, LetsGo [name] s (exec linker (.close name : Step ρ) s).2 ∧
      LetsGo [name] s (exec linker (.drop name : Step ρ) s).2) ∧
    (∀ names panic, LetsGo names s (exec linker (.unwind names panic : Step ρ) s).2) ∧
    (∀ step : Step ρ, s.process.calls <+: (exec linker step s).2.process.calls ∧
      ∀ k, endings s.process.calls k = 1 →
        endings (exec linker step s).2.process.calls k = 1) ∧
    (scopes = [] → ∀ left, left.Perm s.sessions → (release left s).2.sessions = [] ∧
      ∀ k e, openedAt (release left s).2.process.calls k = some e →
        endings (release left s).2.process.calls k = 1) := by
  have hp := h.balanced.ledger.paired
  have hgrow : ∀ step : Step ρ, s.process.calls <+: (exec linker step s).2.process.calls :=
    fun step => (exec_leads scopes step s h.named_reach.1).2.calls_grow
  refine ⟨hp, h.balanced.ledger.balance, ?_, ?_, ?_, ?_, ?_, ?_⟩
  · intro k e args n m hk
    have ho : openedAt s.process.calls k = none := by simp [openedAt, hk]
    refine ⟨hp.never k ho, ?_⟩
    intro x hx he
    have hopened := hp.opened x hx
    rw [he, ho] at hopened
    cases hopened
  · intro x hx
    refine ⟨x.close_eq_drop _, ?_⟩
    obtain ⟨o, probes, hd⟩ := Session.drop_active (h.active hx) s.process
    rw [hd]
    exact ⟨_, rfl⟩
  · intro name
    rw [exec_close, exec_drop]
    exact ⟨(h.without [name]).1, (h.without [name]).1⟩
  · intro names panic
    rw [exec_unwind]
    exact (h.without names).1
  · intro step
    refine ⟨hgrow step, ?_⟩
    intro k hk
    exact (h.exec step).balanced.ledger.paired.ended_stays (hgrow step) hk
  · intro hscopes left hl
    subst hscopes
    obtain ⟨hpoint, hnone⟩ := h.release hl
    refine ⟨hnone, ?_⟩
    intro k e hk
    refine hpoint.balanced.ledger.paired.once k e hk ?_
    intro x hx
    rw [State.held, hnone] at hx
    cases hx

/-- One engine's finalizer panics inside `close`, after its name has been given to another engine
    whose first initializer panics; a scope on that one is left by a panic. -/
def trial : List (Step Unit) :=
  [.probe "e" ⟨"first", .keep, ⟨[], none⟩, ⟨[some "halt"], none⟩, []⟩,
   .start "a" "e" [],
   .probe "e" ⟨"second", .keep, ⟨[some "refused"], none⟩, ⟨[], none⟩, []⟩,
   .start "b" "e" [],
   .withSession "e" [] [.close "a"] (.panicked "left")]

theorem trial_finalized_exactly_once :
    let s := (run (.ofFiles ⟨.directory [], []⟩) trial .fresh).2
    s.process.calls =
      [.init (.probe 0 "first") [] 0 (.returned ()),
       .init (.probe 1 "second") [] 1 (.panicked "refused"),
       .init (.probe 1 "second") [] 1 (.returned ()),
       .finalize 0 (.probe 0 "first") 1 (.panicked "halt"),
       .finalize 2 (.probe 1 "second") 0 (.returned ())] ∧
    s.held [] = [] ∧ Paired (s.held []) s.process.calls :=
  ⟨by decide +kernel, by decide +kernel, (finalized_exactly_once (Point.fresh.run trial)).1⟩

/-! ## The count -/

/-- The count is the number of sessions alive, by those held and by the calls. Each call sees it
    so, a finalizer without its own session. A panicking initializer leaves it as it was, and the
    end of a session finds it above zero and lowers it by one, also if the finalizer panics. The
    steps that close, drop or unwind past sessions lower it by the number of these. -/
theorem active_is_exact (h : Point ρ linker scopes s) :
    s.process.active = (s.held scopes).length ∧
    s.process.active = (alive s.process.calls).length ∧
    (∀ (j : Nat) (c : Call), s.process.calls[j]? = some c → c.Sees (s.process.calls.take j)) ∧
    (∀ g args m q, Session.start g args s.process = (.panicked m, q) →
      q.active = s.process.active) ∧
    (∀ g args x q, Session.start g args s.process = (.returned x, q) →
      q.active = s.process.active + 1) ∧
    (∀ x ∈ s.held scopes, 0 < s.process.active ∧
      (x.drop s.process).2.active + 1 = s.process.active ∧
      (x.close s.process).2.active + 1 = s.process.active) ∧
    (∀ name,
      (exec linker (.close name : Step ρ) s).2.process.active + (s.sessionsNamed [name]).length =
        s.process.active ∧
      (exec linker (.drop name : Step ρ) s).2.process.active + (s.sessionsNamed [name]).length =
        s.process.active) ∧
    (∀ names panic,
      (exec linker (.unwind names panic : Step ρ) s).2.process.active +
        (s.sessionsNamed names).length = s.process.active) ∧
    (scopes = [] → ∀ left, left.Perm s.sessions → (release left s).2.process.active = 0) := by
  have hb := h.balanced
  refine ⟨hb.active, hb.active.trans hb.ledger.alive_length.symm, hb.ledger.sees,
    ?_, ?_, ?_, ?_, ?_, ?_⟩
  · intro g args m q hs
    rw [(hb.start_panicked hs).active, hb.active]
  · intro g args x q hs
    rw [(hb.start_returned hs).active, hb.active, List.length_cons]
  · intro x hx
    have hpos : 0 < s.process.active := by
      rw [hb.active]
      exact List.length_pos_of_mem hx
    obtain ⟨o, probes, hd⟩ := Session.drop_active (h.active hx) s.process
    have hdrop : (x.drop s.process).2.active + 1 = s.process.active := by
      rw [hd]
      exact Process.uncount_active hpos
    exact ⟨hpos, hdrop, by rw [x.close_eq_drop]; exact hdrop⟩
  · intro name
    rw [exec_close, exec_drop]
    exact ⟨(h.without [name]).2, (h.without [name]).2⟩
  · intro names panic
    rw [exec_unwind]
    exact (h.without names).2
  · intro hscopes left hl
    subst hscopes
    obtain ⟨hpoint, hnone⟩ := h.release hl
    rw [hpoint.balanced.active, State.held, hnone]
    rfl

theorem trial_active_is_exact :
    let s := (run (.ofFiles ⟨.directory [], []⟩) (trial.take 4) .fresh).2
    s.process.active = 1 ∧ s.process.active = (alive s.process.calls).length :=
  ⟨by decide +kernel, (active_is_exact (Point.fresh.run (trial.take 4))).2.1⟩

end ScopedEngine.Script
