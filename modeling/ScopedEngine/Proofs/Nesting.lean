/-
  ScopedEngine.Proofs.Nesting — programs of nested scopes, and the brackets their sessions make.

  A `Program` runs scopes one after the other and one inside the other; its closures return a
  value, panic, or catch what a part of them panics with. An initializer call that returns opens a
  bracket and a finalizer call closes one; both carry the place of the initializer call.
  - `Program.nests`: whatever panics and wherever it is caught, a program leaves the count as it
    was, and its calls are a nested word of brackets.
  - `Nested.closes_last`: in a nested word every finalizer closes the session opened last of those
    open.
  - `scopes_nest`: both, and what a single scope comes to.
-/

import ScopedEngine.Proofs.World

namespace ScopedEngine

/-! ## Programs -/

/-- What may run in a scope and around it. -/
inductive Program : Type → Type 1 where
  | value {α : Type} (a : α) : Program α
  | panic {α : Type} (message : String) : Program α
  /-- Reads the process, the count of active sessions included. -/
  | look {α : Type} (f : Process → α) : Program α
  /-- Goes on with what the first part returned. -/
  | andThen {α β : Type} (first : Program β) (rest : β → Program α) : Program α
  /-- Catches what the inner part panics with. -/
  | attempt {α : Type} (inner : Program α) : Program (Outcome α)
  | scope {α : Type} (e : Engine) (args : List Bytes) (body : Session → Program α) : Program α

/-- A panic passes by everything up to the next `attempt`, and ends the sessions on its way. -/
def Program.run {α : Type} : Program α → Process → Outcome α × Process
  | .value a, p => (.returned a, p)
  | .panic m, p => (.panicked m, p)
  | .look f, p => (.returned (f p), p)
  | .andThen first rest, p =>
    match first.run p with
    | (.panicked m, p) => (.panicked m, p)
    | (.returned b, p) => (rest b).run p
  | .attempt inner, p =>
    let (o, p) := inner.run p
    (.returned o, p)
  | .scope e args body, p => withSession e args (fun x p => (body x).run p) p

theorem Outcome.through_eq_returned {α : Type} {o : Outcome α} {o' : Outcome Unit} {a : α} :
    o.through o' = .returned a ↔ o = .returned a ∧ o' = .returned () := by
  cases o <;> cases o' <;> simp [through]

theorem Outcome.through_eq_panicked {α : Type} {o : Outcome α} {o' : Outcome Unit} {m : String} :
    o.through o' = .panicked m ↔ o = .panicked m ∨ (∃ a, o = .returned a) ∧ o' = .panicked m := by
  cases o <;> cases o' <;> simp [through]

namespace Program

variable {α : Type} {e : Engine} {args : List Bytes} {p q : Process}

theorem run_scope_panicked {m : String} (h : Session.start e args p = (.panicked m, q))
    (body : Session → Program α) : (scope e args body).run p = (.panicked m, q) := by
  simp only [run, withSession_eq, onProcess, HasProcess.process, HasProcess.withProcess, id, h]

theorem run_scope_returned {x : Session} (h : Session.start e args p = (.returned x, q))
    (body : Session → Program α) :
    (scope e args body).run p = (((body x).run q).1.through (x.drop ((body x).run q).2).1,
      (x.drop ((body x).run q).2).2) := by
  simp only [run, withSession_eq, onProcess, HasProcess.process, HasProcess.withProcess, id, h]

end Program

/-! ## Brackets -/

/-- Sessions are told by the places of their initializer calls. -/
inductive Bracket where
  | opens (place : Nat)
  | closes (place : Nat)
  deriving DecidableEq, Repr

/-- The bracket of a call that stands at a place. -/
def Call.bracket? (place : Nat) : Call → Option Bracket
  | .init _ _ _ (.returned _) => some (.opens place)
  | .finalize k _ _ _ => some (.closes k)
  | _ => none

/-- The brackets of calls that stand one after the other from a place on. -/
def brackets (first : Nat) (calls : List Call) : List Bracket :=
  (calls.zipIdx first).filterMap fun x => x.1.bracket? x.2

theorem brackets_append (first : Nat) (u v : List Call) :
    brackets first (u ++ v) = brackets first u ++ brackets (first + u.length) v := by
  simp [brackets, List.zipIdx_append]

/-- Every bracket is closed, and by its own. -/
inductive Nested : List Bracket → Prop
  | nil : Nested []
  | append {u v : List Bracket} : Nested u → Nested v → Nested (u ++ v)
  | wrap {w : List Bracket} (k : Nat) : Nested w → Nested (.opens k :: (w ++ [.closes k]))

/-- The sessions still open after a bracket, last one first. -/
def Bracket.settle (open_ : List Nat) : Bracket → List Nat
  | .opens k => k :: open_
  | .closes k => open_.erase k

/-- The sessions opened in a word and not closed in it, last one first. -/
def pending (w : List Bracket) : List Nat := w.foldl Bracket.settle []

/-- Each closing bracket is that of the session opened last of those open. -/
def Lifo : List Nat → List Bracket → Prop
  | _, [] => True
  | open_, .opens k :: w => Lifo (k :: open_) w
  | open_, .closes k :: w => open_.head? = some k ∧ Lifo (open_.erase k) w

theorem lifo_append {open_ : List Nat} {u v : List Bracket} :
    Lifo open_ (u ++ v) ↔ Lifo open_ u ∧ Lifo (u.foldl Bracket.settle open_) v := by
  induction u generalizing open_ with
  | nil => simp [Lifo]
  | cons b u ih =>
    cases b with
    | opens k => exact ih
    | closes k => simp only [List.cons_append, Lifo, List.foldl_cons, Bracket.settle, ih, and_assoc]

namespace Nested

variable {w : List Bracket}

/-- What was open before a nested word is open after it. -/
theorem settles (h : Nested w) (open_ : List Nat) : w.foldl Bracket.settle open_ = open_ := by
  induction h generalizing open_ with
  | nil => rfl
  | append _ _ ihu ihv => rw [List.foldl_append, ihu, ihv]
  | wrap k _ ih =>
    rw [List.foldl_cons, List.foldl_append, ih]
    simp [Bracket.settle]

theorem lifo (h : Nested w) (open_ : List Nat) : Lifo open_ w := by
  induction h generalizing open_ with
  | nil => trivial
  | append hu _ ihu ihv =>
    rw [lifo_append, hu.settles]
    exact ⟨ihu open_, ihv open_⟩
  | wrap k hw ih =>
    show Lifo (k :: open_) _
    rw [lifo_append, hw.settles]
    exact ⟨ih _, rfl, trivial⟩

/-- A session is closed when it is the last one opened of all that are open. -/
theorem closes_last (h : Nested w) {u v : List Bracket} {k : Nat} (hw : w = u ++ .closes k :: v) :
    (pending u).head? = some k := by
  subst hw
  exact (lifo_append.mp (h.lifo [])).2.1

end Nested

/-! ## Runs -/

/-- Between the two nothing has happened but whole scopes: the count is the same, and the calls
    that have come to it are nested. -/
def Process.Nests (p q : Process) : Prop :=
  q.active = p.active ∧ ∃ new, q.calls = p.calls ++ new ∧ Nested (brackets p.calls.length new)

namespace Process.Nests

variable {p q r : Process}

theorem refl (p : Process) : p.Nests p := ⟨rfl, [], (List.append_nil _).symm, .nil⟩

theorem trans (h : p.Nests q) (h' : q.Nests r) : p.Nests r := by
  obtain ⟨ha, u, hu, hnu⟩ := h
  obtain ⟨ha', v, hv, hnv⟩ := h'
  refine ⟨ha'.trans ha, u ++ v, by rw [hv, hu, List.append_assoc], ?_⟩
  rw [brackets_append]
  rw [hu, List.length_append] at hnv
  exact hnu.append hnv

/-- An initializer that panics, or is not called, makes no bracket. -/
theorem refused {e : Engine} {args : List Bytes} {m : String}
    (h : Session.start e args p = (.panicked m, q)) : p.Nests q := by
  obtain rfl | ⟨probes, rfl⟩ := Session.start_panicked h
  · exact .refl q
  · exact ⟨rfl, [.init e args p.active (.panicked m)], rfl, .nil⟩

/-- The brackets of a session stand around those of its body. -/
theorem around {e : Engine} {args : List Bytes} {x : Session}
    (h : Session.start e args p = (.returned x, q)) (h' : q.Nests r) : p.Nests (x.drop r).2 := by
  obtain ⟨rfl, probes, rfl⟩ := Session.start_returned h
  obtain ⟨ha, new, hcalls, hnew⟩ := h'
  change r.active = p.active + 1 at ha
  change r.calls = (p.calls ++ [.init e args p.active (.returned ())]) ++ new at hcalls
  change Nested (brackets (p.calls ++ [Call.init e args p.active (.returned ())]).length new) at hnew
  obtain ⟨o, probes', hd⟩ := Session.drop_active (s := ⟨p.calls.length, e, .active⟩) rfl r
  have hcount := Process.uncount_active (p := r) (by omega)
  rw [hd]
  refine ⟨by show r.uncount.active = p.active; omega,
    [Call.init e args p.active (.returned ())] ++
      (new ++ [.finalize p.calls.length e r.uncount.active o]),
    by simp [hcalls], ?_⟩
  rw [brackets_append, brackets_append]
  rw [List.length_append] at hnew
  exact hnew.wrap p.calls.length

end Process.Nests

/-- Whatever panics and wherever it is caught, a program leaves no session open. -/
theorem Program.nests {α : Type} (prog : Program α) (p : Process) : p.Nests (prog.run p).2 := by
  induction prog generalizing p with
  | value a => exact .refl p
  | panic m => exact .refl p
  | look f => exact .refl p
  | andThen first rest ihf ihr =>
    have h := ihf p
    unfold run
    rcases hf : first.run p with ⟨b | m, q⟩
    · rw [hf] at h
      exact h.trans (ihr b q)
    · rw [hf] at h
      exact h
  | attempt inner ih => exact ih p
  | scope e args body ih =>
    rcases hs : Session.start e args p with ⟨x | m, q⟩
    · rw [run_scope_returned hs]
      exact .around hs (ih x q)
    · rw [run_scope_panicked hs]
      exact .refused hs

/-! ## Scopes -/

namespace Session

variable {e : Engine} {args : List Bytes} {p q : Process}

/-- An initializer is called if its arguments can be counted. -/
theorem start_calls (e : Engine) (p : Process) (hn : args.length ≤ Argv.maxArgc) :
    (start e args p).2.calls.length = p.calls.length + 1 := by
  have hm : Argv.marshal args = .ok (.ofList args) := if_pos hn
  simp only [start, hm]
  generalize hp : (if 0 < p.active then p.say [overlapping e.name p.active] else p) = p'
  have hcalls : p'.calls = p.calls := by
    rw [← hp]
    split <;> rfl
  obtain ⟨o, probes, hrun⟩ :=
    (p'.say [opening e.name (.ofList args)]).runInit_changes e (.ofList args)
  simp only [Process.callInit, hrun]
  cases o <;> simp [Process.remember, Process.count, Process.say, hcalls]

/-- A session that is not opened has called its initializer, or there were too many arguments and
    nothing was called. -/
theorem calls_of_start_panicked {m : String} (h : start e args p = (.panicked m, q)) :
    q.calls = p.calls ++ (if args.length ≤ Argv.maxArgc then
      [.init e args p.active (.panicked m)] else []) := by
  by_cases hn : args.length ≤ Argv.maxArgc
  · rw [if_pos hn]
    obtain rfl | ⟨probes, rfl⟩ := start_panicked h
    · have := start_calls e q hn
      simp [h] at this
    · rfl
  · rw [if_neg hn, List.append_nil]
    have hm : Argv.marshal args = .error (Argv.tooMany args.length) := if_neg hn
    simp only [start, hm] at h
    cases h
    rfl

end Session

/-- Programs nest. Whatever panics in a program and wherever it is caught, its calls open and close
    sessions as a nested word, where each finalizer ends the session opened last of those open,
    and the count afterwards is the count before. A scope whose initializer panics comes to that
    panic, and its body is not run. Any other runs its body and then calls the finalizer of its
    session; it returns what the body returned if both returned, and comes to the panic of the
    first of the two that panicked. (A finalizer that panics while a panic unwinds would end the
    process; here its own panic is passed over.) -/
theorem scopes_nest (p : Process) :
    (∀ {α : Type} (prog : Program α), (prog.run p).2.active = p.active ∧
      ∃ new, (prog.run p).2.calls = p.calls ++ new ∧ Nested (brackets p.calls.length new) ∧
        ∀ u k v, brackets p.calls.length new = u ++ .closes k :: v → (pending u).head? = some k) ∧
    ∀ {α : Type} (e : Engine) (args : List Bytes) (body : Session → Program α),
      let visit := (Program.scope e args body).run p
      (∀ m q, Session.start e args p = (.panicked m, q) → visit = (.panicked m, q) ∧
        q.calls = p.calls ++ (if args.length ≤ Argv.maxArgc then
          [.init e args p.active (.panicked m)] else [])) ∧
      ∀ x q, Session.start e args p = (.returned x, q) →
        let inside := (body x).run q
        q.calls = p.calls ++ [.init e args p.active (.returned ())] ∧
        ∃ o, visit.2.calls = inside.2.calls ++ [.finalize p.calls.length e p.active o] ∧
          (∀ a, visit.1 = .returned a ↔ inside.1 = .returned a ∧ o = .returned ()) ∧
          ∀ m, visit.1 = .panicked m ↔
            inside.1 = .panicked m ∨ (∃ a, inside.1 = .returned a) ∧ o = .panicked m := by
  refine ⟨?_, ?_⟩
  · intro α prog
    obtain ⟨ha, new, hnew, hn⟩ := prog.nests p
    exact ⟨ha, new, hnew, hn, fun u k v hw => hn.closes_last hw⟩
  intro α e args body
  refine ⟨?_, ?_⟩
  · intro m q hs
    exact ⟨Program.run_scope_panicked hs body, Session.calls_of_start_panicked hs⟩
  · intro x q hs
    obtain ⟨rfl, probes, hq⟩ := Session.start_returned hs
    have hopened : q.calls = p.calls ++ [.init e args p.active (.returned ())] := by
      rw [hq]
      rfl
    refine ⟨hopened, ?_⟩
    simp only [Program.run_scope_returned hs]
    have hactive : ((body ⟨p.calls.length, e, .active⟩).run q).2.active = p.active + 1 := by
      rw [((body ⟨p.calls.length, e, .active⟩).nests q).1, hq]
      rfl
    generalize (body ⟨p.calls.length, e, .active⟩).run q = inside at hactive ⊢
    have hcount := Process.uncount_active (p := inside.2) (by omega)
    obtain ⟨o, probes', hd⟩ :=
      Session.drop_active (s := ⟨p.calls.length, e, .active⟩) rfl inside.2
    rw [hd, show inside.2.uncount.active = p.active by omega]
    exact ⟨o, rfl, fun a => Outcome.through_eq_returned, fun m => Outcome.through_eq_panicked⟩

/-- The panic of the inner scope is caught in the outer one. -/
example :
    let e : Engine := .probe 0 "probe"
    let inner : Program Unit := .scope e [] fun _ => .panic "halt"
    let outer : Program (Outcome Unit) := .scope e [] fun _ => .attempt inner
    (outer.run .fresh).1 = .returned (.panicked "halt") ∧
      brackets 0 (outer.run .fresh).2.calls = [.opens 0, .opens 1, .closes 1, .closes 0] := by
  decide +kernel

end ScopedEngine
