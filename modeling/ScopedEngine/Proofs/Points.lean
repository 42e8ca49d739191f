/-
  ScopedEngine.Proofs.Points — the points that scripts pass, and that all of them are within reach.

  A `Point` is a state between two steps of a script, at any depth: with it stand the sessions that
  the scopes around it hold, or that an unwinding still has to let go of. Every step, scopes and
  repetitions included, is a path of moves (`exec_leads`, `run_leads`), so whatever holds in every
  world within reach holds at every point of every run (`Point.reach`).
-/

import ScopedEngine.Proofs.World
import ScopedEngine.Session.Script

namespace ScopedEngine.Script

/-! ## Names -/

section Names

variable {α : Type} {l : List (String × α)} {name : String}

theorem filter_of_not_bound (h : ∀ x ∈ l, x.1 ≠ name) : l.filter (·.1 ≠ name) = l :=
  List.filter_eq_self.mpr fun x hx => by simpa using h x hx

theorem filter_of_lookup_eq_none (h : l.lookup name = none) : l.filter (·.1 ≠ name) = l := by
  refine filter_of_not_bound fun x hx he => ?_
  have := List.lookup_eq_none_iff.mp h x hx
  simp [he] at this

/-- A bound name stands once, beside all others. -/
theorem perm_of_lookup {x : α} (hn : (l.map (·.1)).Nodup) (h : l.lookup name = some x) :
    l.Perm ((name, x) :: l.filter (·.1 ≠ name)) := by
  induction l with
  | nil => cases h
  | cons y l ih =>
    obtain ⟨n, y⟩ := y
    rw [List.map_cons, List.nodup_cons] at hn
    by_cases he : n = name
    · subst he
      obtain rfl : y = x := by simpa using h
      have hl : l.filter (·.1 ≠ n) = l := filter_of_not_bound fun z hz hne =>
        hn.1 (List.mem_map.mpr ⟨z, hz, hne⟩)
      have hf : ((n, y) :: l).filter (·.1 ≠ n) = l := by
        rw [List.filter_cons_of_neg (by simp), hl]
      rw [hf]
    · have hl : l.lookup name = some x := by
        rwa [List.lookup_cons, show (name == n) = false by simpa using Ne.symm he] at h
      have hf : ((n, y) :: l).filter (·.1 ≠ name) = (n, y) :: l.filter (·.1 ≠ name) :=
        List.filter_cons_of_pos (by simpa using he)
      rw [hf]
      exact ((ih hn.2 hl).cons _).trans (.swap _ _ _)

theorem lookup_of_mem {x : α} (hn : (l.map (·.1)).Nodup) (h : (name, x) ∈ l) :
    l.lookup name = some x := by
  induction l with
  | nil => cases h
  | cons y l ih =>
    rw [List.map_cons, List.nodup_cons] at hn
    rcases List.mem_cons.mp h with rfl | h
    · exact List.lookup_cons_self
    · have hne : (name == y.1) = false := by
        rw [beq_eq_false_iff_ne]
        rintro rfl
        exact hn.1 (List.mem_map.mpr ⟨_, h, rfl⟩)
      rw [List.lookup_cons, hne]
      exact ih hn.2 h

theorem nodup_bind (x : α) (hn : (l.map (·.1)).Nodup) :
    (((name, x) :: l.filter (·.1 ≠ name)).map (·.1)).Nodup := by
  rw [List.map_cons, List.nodup_cons]
  refine ⟨fun hm => ?_, hn.sublist (List.filter_sublist.map _)⟩
  obtain ⟨y, hy, he⟩ := List.mem_map.mp hm
  simpa [he] using (List.mem_filter.mp hy).2

theorem lookup_filter {other : String} (h : other ≠ name) :
    (l.filter (·.1 ≠ name)).lookup other = l.lookup other := by
  induction l with
  | nil => rfl
  | cons y l ih =>
    by_cases hy : y.1 = name
    · have hne : (other == y.1) = false := by simpa [hy] using h
      rw [List.filter_cons_of_neg (by simpa using hy), List.lookup_cons, hne]
      exact ih
    · rw [List.filter_cons_of_pos (by simpa using hy), List.lookup_cons, List.lookup_cons, ih]

/-- Binding a name leaves all others bound as they are. -/
theorem lookup_bind {other : String} (x : α) (h : other ≠ name) :
    ((name, x) :: l.filter (·.1 ≠ name)).lookup other = l.lookup other := by
  rw [List.lookup_cons, show (other == name) = false by simpa using h]
  exact lookup_filter h

end Names

namespace State

/-- No name is bound to two sessions. -/
def Named (s : State) : Prop := (s.sessions.map (·.1)).Nodup

/-- The sessions that are held: those of the scopes around and those with a name. -/
def held (scopes : List Session) (s : State) : List Session := scopes ++ s.sessions.map (·.2)

def world (scopes : List Session) (s : State) : World :=
  ⟨s.process, s.engines.map (·.2), s.held scopes⟩

end State

open World

variable {ρ : Type} {linker : Linker} {scopes : List Session} {s t u : State}

/-- From a state to a later one there is a path of moves. -/
def Leads (linker : Linker) (scopes : List Session) (s t : State) : Prop :=
  s.Named → t.Named ∧ Path linker (s.world scopes) (t.world scopes)

namespace Leads

theorem refl (s : State) : Leads linker scopes s s := fun hn => ⟨hn, .refl⟩

theorem trans (h : Leads linker scopes s t) (h' : Leads linker scopes t u) :
    Leads linker scopes s u := fun hn =>
  ⟨(h' (h hn).1).1, (h hn).2.trans (h' (h hn).1).2⟩

end Leads

/-! ## Engines by name -/

theorem bindEngine_subset (s : State) (name : String) (e : Engine) :
    (s.bindEngine name e).engines.map (·.2) ⊆ e :: s.engines.map (·.2) := by
  simp only [State.bindEngine, List.map_cons]
  exact List.cons_subset_cons _ (List.map_subset _ List.filter_sublist.subset)

theorem engine_mem {name : String} {e : Engine} (h : s.engine? name = some e) :
    e ∈ s.engines.map (·.2) := by
  obtain ⟨l₁, l₂, hl, -⟩ := List.lookup_eq_some_iff.mp h
  exact List.mem_map.mpr ⟨(name, e), by rw [hl]; simp, rfl⟩

theorem loadResult_leads (name : String) (r : Except EngineError Library × Process)
    (hm : Move linker (s.world scopes) ((s.world scopes).loaded r)) :
    Leads linker scopes s (loadResult name s r : Result ρ × State).2 := by
  intro hn
  obtain ⟨r, p⟩ := r
  cases r with
  | error e => exact ⟨hn, .single hm⟩
  | ok l =>
    exact ⟨hn, (Relation.ReflTransGen.single hm).tail
      (.forget (bindEngine_subset { s with process := p } name (.library l)))⟩

theorem load_leads (kind : LoadKind) (name : String) (c : Config) (s : State) :
    Leads linker scopes s (load linker kind name c s : Result ρ × State).2 := by
  cases kind with
  | plain => exact loadResult_leads name _ (.load _ (.plain c.library c.symbols))
  | validated => exact loadResult_leads name _ (.load _ (.validated c))
  | shared => exact loadResult_leads name _ (.load _ (.shared c))

/-! ## Sessions by name -/

/-- Taking a session from its name passes it to the hand. -/
theorem forgetSession_path (scopes : List Session) {name : String} {x : Session} (hn : s.Named)
    (hx : s.session? name = some x) :
    (s.forgetSession name).Named ∧
      (s.held scopes).Perm (x :: (s.forgetSession name).held scopes) := by
  refine ⟨hn.sublist (List.filter_sublist.map _), ?_⟩
  exact (((perm_of_lookup hn hx).map _).append_left scopes).trans List.perm_middle

theorem endNamed_leads {how : Session → Process → Outcome Unit × Process}
    (hhow : ∀ x p, how x p = x.drop p) (name : String) (s : State) :
    Leads linker scopes s (endNamed name how s : Result ρ × State).2 := by
  intro hn
  unfold endNamed
  cases hx : s.session? name with
  | none => exact ⟨hn, .refl⟩
  | some x =>
    obtain ⟨hn', hp⟩ := forgetSession_path scopes hn hx
    refine ⟨hn', (Relation.ReflTransGen.single (.pass hp)).tail ?_⟩
    have hd := @Move.drop linker s.process (s.engines.map (·.2)) x
      ((s.forgetSession name).held scopes)
    rw [← hhow] at hd
    exact hd

/-- An action on the process of a state. -/
theorem onProcess_state {α : Type} (f : Process → α × Process) (s : State) :
    onProcess f s = ((f s.process).1, { s with process := (f s.process).2 }) := rfl

/-- Binding a name to a session just opened, and letting go of the one it had. -/
theorem openAs_leads (name e : String) (args : List Bytes) (s : State) :
    Leads linker scopes s (openAs name e args s : Result ρ × State).2 := by
  intro hn
  unfold openAs
  cases he : s.engine? e with
  | none => exact ⟨hn, .refl⟩
  | some g =>
    simp only [onProcess_state]
    rcases hs : Session.start g args s.process with ⟨x | m, q⟩
    case panicked => exact ⟨hn, .single (.refuses (engine_mem he) hs)⟩
    case returned =>
      have hopen : Path linker (s.world scopes)
          ⟨q, s.engines.map (·.2), x :: s.held scopes⟩ :=
        .single (.opens (engine_mem he) hs)
      have hnamed : (({ s with process := q } : State).bindSession name x).Named := nodup_bind x hn
      cases hx : s.session? name with
      | none =>
        have hf : s.sessions.filter (·.1 ≠ name) = s.sessions := filter_of_lookup_eq_none hx
        have hp : (x :: s.held scopes).Perm
            ((({ s with process := q } : State).bindSession name x).held scopes) := by
          simp only [State.held, State.bindSession, List.map_cons, hf]
          exact List.perm_middle.symm
        have hx' : ({ s with process := q } : State).session? name = none := hx
        simp only [hx']
        exact ⟨hnamed, hopen.tail (.pass hp)⟩
      | some old =>
        have hp : (x :: s.held scopes).Perm
            (old :: (({ s with process := q } : State).bindSession name x).held scopes) := by
          simp only [State.held, State.bindSession, List.map_cons]
          refine ((forgetSession_path scopes hn hx).2.cons x).trans ?_
          exact (List.Perm.swap _ _ _).trans (List.perm_middle.symm.cons old)
        have hdrop := (hopen.tail (.pass hp)).tail (.drop q (s.engines.map (·.2)) old _)
        have hx' : ({ s with process := q } : State).session? name = some old := hx
        have hq : (({ s with process := q } : State).bindSession name x).process = q := rfl
        simp only [hx', hq]
        rcases hd : old.drop q with ⟨_ | m, r⟩
        · rw [hd] at hdrop
          exact ⟨hnamed, hdrop⟩
        · rw [hd] at hdrop
          exact ⟨hnamed, hdrop⟩

theorem takeSessions_spec (scopes : List Session) (names : List String) (s : State) (hn : s.Named) :
    (takeSessions names s).2.Named ∧
      (s.held scopes).Perm ((takeSessions names s).1 ++ (takeSessions names s).2.held scopes) ∧
      (takeSessions names s).2.process = s.process ∧
      (takeSessions names s).2.engines = s.engines := by
  induction names generalizing s with
  | nil => exact ⟨hn, .refl _, rfl, rfl⟩
  | cons name names ih =>
    unfold takeSessions
    cases hx : s.session? name with
    | none => exact ih s hn
    | some x =>
      obtain ⟨hn', hp⟩ := forgetSession_path scopes hn hx
      obtain ⟨hn'', hp', hproc, heng⟩ := ih (s.forgetSession name) hn'
      exact ⟨hn'', hp.trans (hp'.cons x), hproc, heng⟩

/-- Sessions let go of one after the other. -/
theorem unwind_path (xs : List Session) (p : Process) (es : List Engine) (held : List Session) :
    Path linker ⟨p, es, xs ++ held⟩ ⟨Session.unwind xs p, es, held⟩ := by
  induction xs generalizing p with
  | nil => exact .refl
  | cons x xs ih => exact .head (.drop p es x (xs ++ held)) (ih (x.drop p).2)

theorem unwind_leads (names : List String) (s : State) :
    Leads linker scopes s { (takeSessions names s).2 with
      process := Session.unwind (takeSessions names s).1 (takeSessions names s).2.process } := by
  intro hn
  obtain ⟨hn', hp, hproc, heng⟩ := takeSessions_spec scopes names s hn
  refine ⟨hn', (Relation.ReflTransGen.single (.pass hp)).trans ?_⟩
  simp only [State.world, hproc, heng]
  exact unwind_path _ _ _ _

/-! ## Scopes -/

/-- What a scope comes to: the body runs inside the session, which is let go of however the body
    ends. -/
theorem exec_withSession {e : String} {g : Engine} (he : s.engine? e = some g) (args : List Bytes)
    (body : List (Step ρ)) (ends : Outcome ρ) :
    (exec linker (.withSession e args body ends) s).2 =
      match Session.start g args s.process with
      | (.panicked _, q) => { s with process := q }
      | (.returned x, q) =>
        let t := (run linker body ({ s with process := q } : State).takeLog.2).2
        { t with process := (x.drop t.process).2 } := by
  unfold exec
  simp only [he, withSession_eq, onProcess, HasProcess.process, HasProcess.withProcess]
  rcases Session.start g args s.process with ⟨x | m, q⟩ <;> rfl

theorem iterate_leads {f : State → State} (hf : ∀ s, Leads linker scopes s (f s)) (n : Nat)
    (s : State) : Leads linker scopes s (Nat.repeat f n s) := by
  induction n with
  | zero => exact .refl s
  | succ n ih => exact ih.trans (hf _)

/-! ## Steps -/

mutual

/-- Every step is a path of moves, with any sessions held around it. -/
theorem exec_leads (scopes : List Session) : (step : Step ρ) → (s : State) →
    Leads linker scopes s (exec linker step s).2
  | .load kind name c, s => by simpa only [exec] using load_leads kind name c s
  | .probe name probe, s => fun hn => ⟨hn, (Relation.ReflTransGen.single
      (.probe s.process _ _ probe)).tail (.forget (bindEngine_subset _ name _))⟩
  | .engine e, s => .refl s
  | .same a b, s => .refl s
  | .dropEngine e, s => by
    unfold exec
    split
    · exact .refl s
    · exact fun hn => ⟨hn, .single (.forget (List.map_subset _ List.filter_sublist.subset))⟩
  | .start name e args, s => by simpa only [exec] using openAs_leads name e args s
  | .state x, s => by
    unfold exec
    split <;> exact .refl s
  | .close x, s => by simpa only [exec] using endNamed_leads Session.close_eq_drop x s
  | .drop x, s => by simpa only [exec] using endNamed_leads (fun _ _ => rfl) x s
  | .unwind names panic, s => by simpa only [exec] using unwind_leads names s
  | .withSession e args body ends, s => by
    cases he : s.engine? e with
    | none =>
      unfold exec
      simp only [he]
      exact .refl s
    | some g =>
      rw [exec_withSession he]
      rcases hs : Session.start g args s.process with ⟨x | m, q⟩
      · intro hn
        obtain ⟨hn', hbody⟩ := run_leads (x :: scopes) body ({ s with process := q } : State).takeLog.2 hn
        exact ⟨hn', (Relation.ReflTransGen.head (.opens (engine_mem he) hs) hbody).tail
          (.drop _ _ x _)⟩
      · exact fun hn => ⟨hn, .single (.refuses (engine_mem he) hs)⟩
  | .times n steps, s => by
    unfold exec
    exact iterate_leads (run_leads scopes steps) n s
  | .active, s => .refl s
  | .recorder, s => .refl s
  | .recorderArg i, s => .refl s
  | .recorderReset, s => fun hn => ⟨hn, .single (.reset s.process _ _)⟩
  | .unknown, s => .refl s

theorem run_leads (scopes : List Session) : (steps : List (Step ρ)) → (s : State) →
    Leads linker scopes s (run linker steps s).2
  | [], s => .refl s
  | step :: steps, s => by
    unfold run
    exact (exec_leads scopes step s).trans (run_leads scopes steps (exec linker step s).2.takeLog.2)

end

/-! ## Points -/

/-- The states that scripts pass, with the sessions held by the scopes and the unwinding around. -/
inductive Point (ρ : Type) (linker : Linker) : List Session → State → Prop
  | fresh : Point ρ linker [] .fresh
  | exec {scopes : List Session} {s : State} (step : Step ρ) : Point ρ linker scopes s →
      Point ρ linker scopes (exec linker step s).2
  | report {scopes : List Session} {s : State} : Point ρ linker scopes s →
      Point ρ linker scopes s.takeLog.2
  /-- Inside a scope, before its body. -/
  | enter {scopes : List Session} {s : State} {e : String} {g : Engine} {args : List Bytes}
      {x : Session} {q : Process} : Point ρ linker scopes s → s.engine? e = some g →
      Session.start g args s.process = (.returned x, q) →
      Point ρ linker (x :: scopes) { s with process := q }
  /-- While a panic unwinds, between one session and the next. -/
  | unwinding {scopes : List Session} {s : State} (names : List String) {gone left : List Session} :
      Point ρ linker scopes s → (takeSessions names s).1 = gone ++ left →
      Point ρ linker (left ++ scopes) { (takeSessions names s).2 with
        process := Session.unwind gone (takeSessions names s).2.process }

namespace Point

theorem named_reach (h : Point ρ linker scopes s) : s.Named ∧ Reach linker (s.world scopes) := by
  induction h with
  | fresh => exact ⟨.nil, .refl⟩
  | exec step _ ih =>
    obtain ⟨hn, hpath⟩ := exec_leads _ step _ ih.1
    exact ⟨hn, ih.2.trans hpath⟩
  | report _ ih => exact ih
  | enter _ he hs ih => exact ⟨ih.1, ih.2.tail (.opens (engine_mem he) hs)⟩
  | @unwinding scopes s names gone left _ hx ih =>
    obtain ⟨hn, hp, hproc, heng⟩ := takeSessions_spec scopes names s ih.1
    refine ⟨hn, (ih.2.tail (.pass hp)).trans ?_⟩
    simp only [State.world, State.held, hx, hproc, heng, List.append_assoc]
    exact unwind_path gone s.process _ _

/-- Every point lies in a world within reach. -/
theorem reach (h : Point ρ linker scopes s) : Reach linker (s.world scopes) := h.named_reach.2

theorem run (h : Point ρ linker scopes s) (steps : List (Step ρ)) :
    Point ρ linker scopes (Script.run linker steps s).2 := by
  induction steps generalizing s with
  | nil => exact h
  | cons step steps ih =>
    unfold Script.run
    exact ih (h.exec step).report

/-- Letting go of all sessions that are left is a number of steps. -/
theorem release (h : Point ρ linker scopes s) {left : List (String × Session)}
    (hl : left.Perm s.sessions) :
    Point ρ linker scopes (Script.release left s).2 ∧ (Script.release left s).2.sessions = [] := by
  induction left generalizing s with
  | nil => exact ⟨h, hl.nil_eq.symm⟩
  | cons y left ih =>
    obtain ⟨name, x⟩ := y
    have hn := h.named_reach.1
    have hx : s.session? name = some x := lookup_of_mem hn (hl.mem_iff.mp List.mem_cons_self)
    have hdrop : (Script.exec linker (.drop name : Step ρ) s).2 =
        { s.forgetSession name with process := (x.drop s.process).2 } := by
      unfold Script.exec endNamed
      simp only [hx]
      rfl
    have hp : left.Perm (Script.exec linker (.drop name : Step ρ) s).2.takeLog.2.sessions := by
      rw [hdrop]
      exact (hl.trans (perm_of_lookup hn hx)).cons_inv
    have := ih (h.exec (.drop name)).report hp
    rw [hdrop] at this
    exact this

end Point

end ScopedEngine.Script
