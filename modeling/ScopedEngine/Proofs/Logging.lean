/-
  ScopedEngine.Proofs.Logging — the log of the sessions is the story of their calls.

  `Call.told` is what is said of one call: for an initializer that another session is alive, if so
  how many, then the arguments as they were passed, and that the session is open if the
  initializer returned; for a finalizer that the session is closed if it returned. The log of the
  sessions is what is said of all calls in order, each with the sessions alive before it (`story`),
  and nothing else: loads speak under another target (`Loads.says`).

  Main result, for engines that may panic in any call, at every point of every script:
  - `log_is_complete`: the story, what opening and ending a session add to it, and the count of the
    active sessions as it is read off the log.
-/

import ScopedEngine.Proofs.Pairing
import ScopedEngine.Proofs.Points

namespace ScopedEngine

/-! ## What is said of a call -/

namespace Session

open Text in
/-- The arguments as text, lossily. -/
def argumentText (args : List Bytes) : String :=
  (Outline.list (args.map fun b => .leaf (Quoted.ofChars (Utf8.lossy b)))).compactString

/-- An initializer is about to be called. -/
def announced (name : String) (args : List Bytes) : Record :=
  ⟨.debug, .session, "initializing engine '" ++ name ++ "' with argc " ++ toString args.length
    ++ ": " ++ argumentText args⟩

/-- The vector that is announced is the one marshalled, before it is given away. -/
theorem opening_ofList (name : String) (args : List Bytes) :
    opening name (.ofList args) = announced name args := by
  unfold opening announced argumentText Argv.outline
  rw [Argv.toList_ofList]
  rfl

end Session

/-- What the session layer says of a call when `n` sessions are alive before it. -/
def Call.told (n : Nat) : Call → List Record
  | .init e args _ o =>
    (if n = 0 then [] else [Session.overlapping e.name n]) ++ [Session.announced e.name args] ++
      if o = .returned () then [Session.opened e.name] else []
  | .finalize _ e _ o => if o = .returned () then [Session.closed e.name] else []
  | .reset => []

/-- What is said of calls that come after others. -/
def storyAfter (past : List Call) : List Call → List Record
  | [] => []
  | c :: rest => c.told (alive past).length ++ storyAfter (past ++ [c]) rest

/-- What is said of all calls. -/
def story (calls : List Call) : List Record := storyAfter [] calls

theorem storyAfter_append (past calls : List Call) (c : Call) :
    storyAfter past (calls ++ [c]) =
      storyAfter past calls ++ c.told (alive (past ++ calls)).length := by
  induction calls generalizing past with
  | nil => simp [storyAfter]
  | cons d calls ih =>
    rw [List.cons_append, storyAfter, storyAfter, ih, List.append_assoc, List.append_assoc,
      List.singleton_append]

theorem story_append (calls : List Call) (c : Call) :
    story (calls ++ [c]) = story calls ++ c.told (alive calls).length :=
  storyAfter_append [] calls c

/-! ## Who speaks -/

theorem Call.told_session {n : Nat} {c : Call} : ∀ r ∈ c.told n, r.target = .session := by
  intro r hr
  cases c with
  | init e args m o =>
    simp only [told, List.mem_append, List.mem_singleton] at hr
    rcases hr with (hr | rfl) | hr
    · split at hr
      · cases hr
      · rw [List.mem_singleton.mp hr]
        rfl
    · rfl
    · split at hr
      · rw [List.mem_singleton.mp hr]
        rfl
      · cases hr
  | finalize k e m o =>
    simp only [told] at hr
    split at hr
    · rw [List.mem_singleton.mp hr]
      rfl
    · cases hr
  | reset => cases hr

/-- What a load logs is a beginning of what one logs that succeeds. -/
theorem Loader.load_log (linker : Linker) (path : Bytes) (s : Symbols) :
    (Loader.load linker path s).2 <+:
      [resolving s.init, resolving s.finalize, loaded (Utf8.lossyString path) s] := by
  unfold load
  dsimp only
  cases linker.openPath path with
  | error cause => exact List.nil_prefix
  | ok image =>
    dsimp only
    cases image.find s.init with
    | error cause => exact ⟨_, rfl⟩
    | ok f =>
      dsimp only
      cases image.find s.finalize with
      | error cause => exact ⟨_, rfl⟩
      | ok g => exact List.prefix_rfl

theorem Loader.load_speaks {linker : Linker} {path : Bytes} {s : Symbols} :
    ∀ r ∈ (Loader.load linker path s).2, r.target = .engine := by
  intro r hr
  have hthree := (Loader.load_log linker path s).subset hr
  simp only [List.mem_cons, List.not_mem_nil, or_false] at hthree
  rcases hthree with rfl | rfl | rfl
  · rfl
  · rfl
  · rfl

theorem Loader.loadConfig_speaks {linker : Linker} {c : Config} :
    ∀ r ∈ (Loader.loadConfig linker c).2, r.target = .engine := by
  intro r hr
  unfold loadConfig at hr
  split at hr
  · cases hr
  · exact load_speaks r hr

namespace Process

/-- What the session layer has said. -/
def spoken (p : Process) : List Record := p.log.filter (·.target = .session)

variable {linker : Linker} {p q : Process}

theorem enrol_log (path : Bytes) (s : Symbols) (x : Except EngineError EntryPoints × List Record) :
    (p.enrol path s x).2.log = p.log ++ x.2 := by
  unfold enrol
  dsimp only
  split
  · rfl
  · rfl

theorem loadShared_log (p : Process) (linker : Linker) (c : Config) :
    (p.loadShared linker c).2.log = p.log ∨
      (p.loadShared linker c).2.log = p.log ++ (Loader.loadConfig linker c).2 := by
  have hlog : (p.loadConfig linker c).2.log = p.log ++ (Loader.loadConfig linker c).2 :=
    enrol_log _ _ _
  unfold loadShared
  split
  · exact .inl rfl
  · right
    rcases hl : p.loadConfig linker c with ⟨e | l, q⟩
    · rw [hl] at hlog
      exact hlog
    · rw [hl] at hlog
      exact hlog

/-- Loads say nothing under the name of the session layer. -/
theorem Loads.says {r : Except EngineError Library × Process} (h : p.Loads linker r) :
    r.2.spoken = p.spoken := by
  have hskip : ∀ rs : List Record, (∀ r ∈ rs, r.target = .engine) → r.2.log = p.log ++ rs →
      r.2.spoken = p.spoken := by
    intro rs hrs hlog
    have hnone : rs.filter (·.target = .session) = [] := by
      refine List.filter_eq_nil_iff.mpr fun x hx => ?_
      simp [hrs x hx]
    rw [spoken, hlog, List.filter_append, hnone, List.append_nil]
    rfl
  cases h with
  | plain path s => exact hskip _ Loader.load_speaks (enrol_log _ _ _)
  | validated c => exact hskip _ Loader.loadConfig_speaks (enrol_log _ _ _)
  | shared c =>
    rcases p.loadShared_log linker c with hlog | hlog
    · exact hskip [] (fun _ h => nomatch h) (by rw [hlog, List.append_nil])
    · exact hskip _ Loader.loadConfig_speaks hlog

/-- A call that is told as it is made goes on with the story. -/
theorem story_goes_on {c : Call} (hn : p.active = (alive p.calls).length)
    (h : p.spoken = story p.calls) (hlog : q.log = p.log ++ c.told p.active)
    (hcalls : q.calls = p.calls ++ [c]) : q.spoken = story q.calls := by
  have hall : (c.told p.active).filter (·.target = .session) = c.told p.active := by
    refine List.filter_eq_self.mpr fun r hr => ?_
    simpa using Call.told_session r hr
  have hq : q.spoken = p.spoken ++ c.told p.active := by
    rw [spoken, hlog, List.filter_append, hall]
    rfl
  rw [hq, hcalls, story_append, h, hn]

end Process

/-! ## Opening and ending -/

/-- What a call came to, without its value. -/
def Outcome.ends {α : Type} : Outcome α → Outcome Unit
  | .returned _ => .returned ()
  | .panicked m => .panicked m

namespace Session

variable {e : Engine} {args : List Bytes} {p : Process}

theorem announcements_eq (o : Outcome Unit) (n : Nat) :
    announcements e args n ++ (if o = .returned () then [opened e.name] else []) =
      (Call.init e args n o).told n := by
  simp only [announcements, Call.told, opening_ofList]
  by_cases hn : n = 0
  · simp [hn]
  · simp [hn, Nat.pos_of_ne_zero hn]

/-- An open with arguments that fit is one call, told as it is made. -/
theorem start_told (hn : args.length ≤ Argv.maxArgc) (e : Engine) (p : Process) :
    let c := Call.init e args p.active (start e args p).1.ends
    (start e args p).2.calls = p.calls ++ [c] ∧
      (start e args p).2.log = p.log ++ c.told p.active := by
  rcases start_called hn e p with ⟨m, probes, hs⟩ | ⟨probes, hs⟩
  · rw [hs]
    refine ⟨rfl, ?_⟩
    rw [← announcements_eq]
    simp [called, Outcome.ends]
  · rw [hs]
    refine ⟨rfl, ?_⟩
    rw [← announcements_eq]
    simp [called, Process.count, Process.say, Outcome.ends]

theorem drop_told {s : Session} (hs : s.state = .active) (p : Process) :
    let c := Call.finalize s.place s.engine p.uncount.active (s.drop p).1
    (s.drop p).2.calls = p.calls ++ [c] ∧ (s.drop p).2.log = p.log ++ c.told p.active := by
  obtain ⟨o, probes, hd⟩ := drop_active hs p
  rw [hd]
  exact ⟨rfl, rfl⟩

end Session

namespace World

variable {linker : Linker} {v w : World}

theorem Move.story (hm : Move linker v w) (hb : Balanced v.held v.process)
    (h : v.process.spoken = story v.process.calls) : w.process.spoken = story w.process.calls := by
  have hn : v.process.active = (alive v.process.calls).length :=
    hb.active.trans hb.ledger.alive_length.symm
  have hstart : ∀ (e : Engine) (args : List Bytes),
      (Session.start e args v.process).2.spoken =
        ScopedEngine.story (Session.start e args v.process).2.calls := by
    intro e args
    by_cases hfit : args.length ≤ Argv.maxArgc
    · obtain ⟨hcalls, hlog⟩ := Session.start_told hfit e v.process
      exact Process.story_goes_on hn h hlog hcalls
    · rw [Session.start_tooMany hfit]
      exact h
  cases hm with
  | load _ hl =>
    obtain ⟨log, n, shared, hr⟩ := hl.changes
    have hsays := hl.says
    simp only [World.loaded, hr] at hsays ⊢
    exact hsays.trans h
  | probe p es held probe => exact h
  | forget _ => exact h
  | @opens p q _ _ e args _ _ hs =>
    have hq := hstart e args
    rw [hs] at hq
    exact hq
  | @refuses p q _ _ e args _ _ hs =>
    have hq := hstart e args
    rw [hs] at hq
    exact hq
  | drop p es s held =>
    have hs : s.state = .active := hb.ledger.paired.active s List.mem_cons_self
    obtain ⟨hcalls, hlog⟩ := Session.drop_told hs p
    exact Process.story_goes_on hn h hlog hcalls
  | pass _ => exact h
  | reset p es held =>
    refine Process.story_goes_on (c := .reset) hn h ?_ rfl
    show p.log = p.log ++ []
    rw [List.append_nil]

theorem Reach.story (h : Reach linker w) : w.process.spoken = story w.process.calls := by
  induction h with
  | refl => rfl
  | tail hv hm ih => exact hm.story (Reach.balanced hv) ih

end World

/-! ## Counting -/

namespace Record

/-- The word with which a message begins. -/
def begins (word : String) (r : Record) : Bool :=
  r.target = .session && word.toList.isPrefixOf r.message.toList

def isOpened (r : Record) : Bool := r.begins "opened"

def isClosed (r : Record) : Bool := r.begins "closed"

end Record

/-- A finalizer was called and panicked. -/
def Call.brokeOff : Call → Bool
  | .finalize _ _ _ (.panicked _) => true
  | _ => false

section Begins

open Session Record

variable (name : String) (n : Nat) (args : List Bytes)

@[simp] theorem isOpened_overlapping : (overlapping name n).isOpened = false := by
  simp [isOpened, begins, overlapping, List.isPrefixOf]

@[simp] theorem isClosed_overlapping : (overlapping name n).isClosed = false := by
  simp [isClosed, begins, overlapping, List.isPrefixOf]

@[simp] theorem isOpened_announced : (announced name args).isOpened = false := by
  simp [isOpened, begins, announced, List.isPrefixOf]

@[simp] theorem isClosed_announced : (announced name args).isClosed = false := by
  simp [isClosed, begins, announced, List.isPrefixOf]

@[simp] theorem isOpened_opened : (opened name).isOpened = true := by
  simp [isOpened, begins, opened, List.isPrefixOf]

@[simp] theorem isClosed_opened : (opened name).isClosed = false := by
  simp [isClosed, begins, opened, List.isPrefixOf]

@[simp] theorem isOpened_closed : (closed name).isOpened = false := by
  simp [isOpened, begins, closed, List.isPrefixOf]

@[simp] theorem isClosed_closed : (closed name).isClosed = true := by
  simp [isClosed, begins, closed, List.isPrefixOf]

end Begins

namespace Call

variable (e : Engine) (args : List Bytes) (k m n : Nat) (o : Outcome Unit)

/-- Of what is said of an initializer one record at most counts. -/
theorem countP_told_init :
    ((Call.init e args m o).told n).countP Record.isOpened =
      (if o = .returned () then 1 else 0) ∧
    ((Call.init e args m o).told n).countP Record.isClosed = 0 := by
  unfold told
  by_cases hn : n = 0
  · by_cases ho : o = .returned ()
    · simp [hn, ho]
    · simp [hn, ho]
  · by_cases ho : o = .returned ()
    · simp [hn, ho]
    · simp [hn, ho]

theorem countP_told_finalize :
    ((Call.finalize k e m o).told n).countP Record.isOpened = 0 ∧
    ((Call.finalize k e m o).told n).countP Record.isClosed =
      if o = .returned () then 1 else 0 := by
  unfold told
  by_cases ho : o = .returned ()
  · simp [ho]
  · simp [ho]

end Call

/-- Sessions that are held, closed, or ended by a finalizer that panicked are those opened. -/
theorem Ledger.tally {held : List Session} {calls : List Call} (h : Ledger held calls) :
    (story calls).countP Record.isOpened =
      (story calls).countP Record.isClosed + calls.countP Call.brokeOff + held.length := by
  induction h with
  | nil => rfl
  | @opened held calls e args _ ih =>
    obtain ⟨ho, hc⟩ := Call.countP_told_init e args held.length (alive calls).length (.returned ())
    rw [story_append, List.countP_append, List.countP_append, List.countP_append, ho, hc, ih]
    simp [Call.brokeOff]
    omega
  | @refused held calls e args m _ ih =>
    obtain ⟨ho, hc⟩ := Call.countP_told_init e args held.length (alive calls).length (.panicked m)
    rw [story_append, List.countP_append, List.countP_append, List.countP_append, ho, hc, ih]
    simp [Call.brokeOff]
  -- One session less is held, whether its end is told or its finalizer broke off.
  | @ended held calls s o _ ih =>
    obtain ⟨ho, hc⟩ :=
      Call.countP_told_finalize s.engine s.place held.length (alive calls).length o
    rw [story_append, List.countP_append, List.countP_append, List.countP_append, ho, hc, ih]
    cases o with
    | returned _ =>
      simp [Call.brokeOff]
      omega
    | panicked m =>
      simp [Call.brokeOff]
      omega
  | @reset held calls _ ih =>
    rw [story_append, List.countP_append, List.countP_append, List.countP_append, ih]
    simp [Call.brokeOff, Call.told]
  | pass _ hp ih => rw [ih, hp.length_eq]

/-- Only the session layer opens and closes. -/
theorem Process.countP_spoken (p : Process) (word : String) :
    p.spoken.countP (·.begins word) = p.log.countP (·.begins word) := by
  rw [spoken, List.countP_filter]
  refine List.countP_congr fun r _ => ?_
  simp only [Record.begins, Bool.and_eq_true, decide_eq_true_eq]
  exact ⟨fun hr => hr.1, fun hr => ⟨hr, hr.1⟩⟩

/-! ## Runs -/

namespace Script

variable {ρ : Type} {linker : Linker} {scopes : List Session} {s : State}

/-- The log of the sessions is what is said of their calls. An open warns if other sessions are
    held, of as many as there are, announces its arguments as they were passed, and says that the
    session is open if the initializer returned; the end of a session says that it is closed if the
    finalizer returned; and neither says more. So the sessions that the log has opened are those it
    has closed, those whose finalizer panicked, and those that are active. -/
theorem log_is_complete (h : Point ρ linker scopes s) :
    let p := s.process
    let n := (s.held scopes).length
    (p.spoken = story p.calls ∧ n = (alive p.calls).length) ∧
    (∀ (e : Engine) args, args.length ≤ Argv.maxArgc →
      (Session.start e args p).2.log = p.log ++
        ((if n = 0 then [] else [Session.overlapping e.name n]) ++
          [Session.announced e.name args] ++
          if (Session.start e args p).1.ends = .returned () then [Session.opened e.name] else [])) ∧
    (∀ x ∈ s.held scopes, ∀ how ∈ [Session.drop, Session.close],
      (how x p).2.log = p.log ++
        if (how x p).1 = .returned () then [Session.closed x.engine.name] else []) ∧
    p.log.countP Record.isOpened =
      p.log.countP Record.isClosed + p.calls.countP Call.brokeOff + p.active := by
  intro p n
  have hb : Balanced (s.held scopes) p := h.reach.balanced
  have hstory : p.spoken = story p.calls := h.reach.story
  have hn : p.active = n := hb.active
  refine ⟨⟨hstory, hb.ledger.alive_length.symm⟩, ?_, ?_, ?_⟩
  · intro e args hfit
    rw [(Session.start_told hfit e p).2, Call.told, hn]
  · intro x hx how hhow
    have hs : x.state = .active := hb.ledger.paired.active x hx
    have hdrop : how x p = x.drop p := by
      rcases List.mem_pair.mp hhow with rfl | rfl
      · rfl
      · exact x.close_eq_drop p
    rw [hdrop, (Session.drop_told hs p).2, Call.told]
  · have htally := hb.ledger.tally
    rw [← hstory] at htally
    have hopened : p.spoken.countP Record.isOpened = p.log.countP Record.isOpened :=
      p.countP_spoken "opened"
    have hclosed : p.spoken.countP Record.isClosed = p.log.countP Record.isClosed :=
      p.countP_spoken "closed"
    rw [hb.active, ← hopened, ← hclosed]
    exact htally

/-- One initializer and one finalizer panic while another session is held. -/
def mishaps : List (Step Unit) :=
  [.probe "e" ⟨"first", .keep, ⟨[], none⟩, ⟨[some "halt"], none⟩, []⟩,
   .start "a" "e" [[0x61]],
   .probe "f" ⟨"second", .scribble, ⟨[some "refused"], none⟩, ⟨[], none⟩, []⟩,
   .start "b" "f" [], .start "b" "f" [[0x62], [0xff]], .close "a"]

theorem mishaps_log_is_complete :
    let s := (run (.ofFiles ⟨.directory [], []⟩) mishaps .fresh).2
    s.process.log.map (·.message) =
      ["initializing engine 'first' with argc 1: [\"a\"]",
       "opened session on engine 'first'",
       "initializing engine 'second' while 1 session(s) are still active",
       "initializing engine 'second' with argc 0: []",
       "initializing engine 'second' while 1 session(s) are still active",
       "initializing engine 'second' with argc 2: [\"b\", \"�\"]",
       "opened session on engine 'second'"] ∧
    s.process.spoken = story s.process.calls ∧ s.process.active = 1 ∧
    s.process.calls.countP Call.brokeOff = 1 :=
  ⟨by decide +kernel, (log_is_complete (Point.fresh.run mishaps)).1.1, by decide +kernel,
    by decide +kernel⟩

end Script

end ScopedEngine
