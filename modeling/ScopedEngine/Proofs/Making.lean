/-
  ScopedEngine.Proofs.Making — what it takes to make a session object.

  An argument list is a sequence of texts (`Value.Holds`), and the initializer is given the bytes
  of each. `construct_cases` says once what making an object can do: whatever of it is refused, no
  entry point has been called; otherwise the initializer has been called once and has returned.
-/

import ScopedEngine.Host.Script
import ScopedEngine.Proofs.World

namespace ScopedEngine.Host

/-! ## Arguments -/

namespace HostText

theorem encodeFrom_ofChars (i : Nat) (cs : List Char) :
    encodeFrom i (ofChars cs) = .ok (Utf8.encode cs) := by
  induction cs generalizing i with
  | nil => rfl
  | cons c cs ih =>
    have h := ih (i + 1)
    simp only [ofChars] at h
    simp only [ofChars, List.map_cons, encodeFrom, h, Utf8.encode, List.flatMap_cons]
    rfl

/-- A text that has bytes has no loose ones among them. -/
theorem encodeFrom_eq_ok {i : Nat} {t : HostText} {b : Bytes} (h : encodeFrom i t = .ok b) :
    ∃ cs, t = ofChars cs ∧ b = Utf8.encode cs := by
  induction t generalizing i b with
  | nil => exact ⟨[], rfl, (Except.ok.inj h).symm⟩
  | cons u t ih =>
    cases u with
    | loose _ => cases h
    | char c =>
      cases ht : encodeFrom (i + 1) t with
      | error f => simp [encodeFrom, ht, bind, Except.bind] at h
      | ok b' =>
        obtain ⟨cs, rfl, rfl⟩ := ih ht
        simp only [encodeFrom, ht, bind, Except.bind, pure, Except.pure, Except.ok.injEq] at h
        exact ⟨c :: cs, rfl, by rw [← h, Utf8.encode, Utf8.encode, List.flatMap_cons]⟩

end HostText

namespace Value

/-- A text of characters. -/
def ofText (cs : List Char) : Value := .text (.ofChars cs)

/-- A list or a tuple of these texts. No bytes are no texts either. -/
def Holds (texts : List (List Char)) : Value → Prop
  | .list items => items = texts.map ofText
  | .tuple items => items = texts.map ofText
  | .bytes b => b = [] ∧ texts = []
  | _ => False

theorem argument_ofText (cs : List Char) : (ofText cs).argument = .ok (Utf8.encode cs) :=
  HostText.encodeFrom_ofChars 0 cs

theorem argument_eq_ok {v : Value} {b : Bytes} (h : v.argument = .ok b) :
    ∃ cs, v = ofText cs ∧ b = Utf8.encode cs := by
  cases v with
  | text t =>
    obtain ⟨cs, rfl, rfl⟩ := HostText.encodeFrom_eq_ok h
    exact ⟨cs, rfl, rfl⟩
  | _ => cases h

theorem mapM_argument_iff {items : List Value} {args : List Bytes} :
    items.mapM argument = .ok args ↔
      ∃ texts : List (List Char), items = texts.map ofText ∧ args = texts.map Utf8.encode := by
  constructor
  · intro h
    induction items generalizing args with
    | nil => exact ⟨[], rfl, (Except.ok.inj h).symm⟩
    | cons v items ih =>
      rw [List.mapM_cons] at h
      cases hv : v.argument with
      | error f => simp [hv, bind, Except.bind] at h
      | ok b =>
        cases hr : items.mapM argument with
        | error f => simp [hv, hr, bind, Except.bind] at h
        | ok bs =>
          obtain ⟨cs, rfl, rfl⟩ := argument_eq_ok hv
          obtain ⟨texts, rfl, rfl⟩ := ih hr
          simp only [hv, hr, bind, Except.bind, pure, Except.pure, Except.ok.injEq] at h
          exact ⟨cs :: texts, rfl, h.symm⟩
  · rintro ⟨texts, rfl, rfl⟩
    induction texts with
    | nil => rfl
    | cons cs texts ih =>
      rw [List.map_cons, List.mapM_cons, argument_ofText, ih]
      rfl

/-- The arguments of a value are the bytes of the texts it holds. -/
theorem arguments_iff {v : Value} {args : List Bytes} :
    v.arguments = .ok args ↔ ∃ texts, v.Holds texts ∧ args = texts.map Utf8.encode := by
  cases v with
  | list items => exact mapM_argument_iff
  | tuple items => exact mapM_argument_iff
  | bytes b =>
    cases b with
    | nil => simp [arguments, Holds, eq_comm]
    | cons x b => simp [arguments, Holds]
  | _ => simp [arguments, Holds]

end Value

/-! ## Objects -/

/-- An object whose session has just been opened, by the call at a place. -/
def Handle.opened (place : Nat) (l : Library) : Handle := ⟨some ⟨place, .library l, .active⟩, l.path⟩

/-- Opening a session on a shared library fails with the library or for too many arguments, and
    calls no entry point then. -/
theorem openOn_cases (linker : Linker) (c : Config) (args : List Bytes) (p : Process) :
    (∃ e log n shared, openOn linker c args p =
        (.error e, { p with log := log, loads := n, shared := shared }) ∧
      ∀ l, (p.loadShared linker c).1 = .ok l → ¬ args.length ≤ Argv.maxArgc) ∨
    ∃ l q, (p.loadShared linker c).1 = .ok l ∧ args.length ≤ Argv.maxArgc ∧
      openOn linker c args p = (.ok (.opened p.calls.length l), q) ∧
      q.active = p.active + 1 ∧ q.calls = p.calls ++ [.init (.library l) args p.active (.returned ())] ∧
      q.recorder = p.recorder.callInit l.entries.init (.ofList args) := by
  obtain ⟨r, log, n, shared, hload⟩ := p.loadShared_changes linker c
  rw [openOn, hload]
  cases r with
  | error e => exact .inl ⟨_, log, n, shared, rfl, nofun⟩
  | ok l =>
    dsimp only
    by_cases hn : args.length ≤ Argv.maxArgc
    · obtain ⟨x, q, hs⟩ := Session.start_library l hn { p with log := log, loads := n, shared := shared }
      obtain ⟨rfl, probes, rfl⟩ := Session.start_returned hs
      rw [hs]
      exact .inr ⟨l, _, rfl, hn, rfl, rfl, rfl, rfl⟩
    · have hm : Argv.marshal args = .error (Argv.tooMany args.length) := if_neg hn
      simp only [Session.start, hm]
      exact .inl ⟨_, log, n, shared, rfl, fun _ _ => hn⟩

/-- What an object is made of: a list of texts, no more of them than can be counted, and the
    library that is loaded for it. -/
structure Accepts (linker : Linker) (look : Config.Lookup) (argv library : Option Value)
    (p : Process) (texts : List (List Char)) (l : Library) : Prop where
  argv : ∃ v, argv = some v ∧ v.Holds texts
  counted : texts.length ≤ Argv.maxArgc
  library : ∃ path, (library.getD .none).library = .ok path ∧
    (p.loadShared linker (sessionConfig path look)).1 = .ok l

/-- All that making an object can do: something is refused and no entry point is called, or the
    initializer is called with the bytes of the texts, and returns. -/
theorem construct_cases (linker : Linker) (look : Config.Lookup) (argv library : Option Value)
    (p : Process) :
    (∃ e log n shared, construct linker look argv library p =
        (.error e, { p with log := log, loads := n, shared := shared }) ∧
      ∀ texts l, ¬ Accepts linker look argv library p texts l) ∨
    ∃ texts l q, Accepts linker look argv library p texts l ∧
      construct linker look argv library p =
        (.ok (.opened p.calls.length l), q) ∧
      q.active = p.active + 1 ∧
      q.calls = p.calls ++ [.init (.library l) (texts.map Utf8.encode) p.active (.returned ())] ∧
      q.recorder = p.recorder.callInit l.entries.init (.ofList (texts.map Utf8.encode)) := by
  cases argv with
  | none =>
    refine .inl ⟨.wrongType, p.log, p.loads, p.shared, rfl, fun texts l h => ?_⟩
    obtain ⟨v, hv, -⟩ := h.argv
    cases hv
  | some v =>
    cases hargs : v.arguments with
    | error f =>
      refine .inl ⟨.ofArgument f, p.log, p.loads, p.shared, by simp only [construct, hargs],
        fun texts l h => ?_⟩
      obtain ⟨w, hw, hold⟩ := h.argv
      cases hw
      cases hargs.symm.trans (Value.arguments_iff.mpr ⟨texts, hold, rfl⟩)
    | ok args =>
      cases hpath : (library.getD .none).library with
      | error f =>
        refine .inl ⟨.ofArgument f, p.log, p.loads, p.shared, by simp only [construct, hargs, hpath],
          fun texts l h => ?_⟩
        obtain ⟨path, hok, -⟩ := h.library
        cases hpath.symm.trans hok
      | ok path =>
        have hopen : construct linker look (some v) library p =
            openOn linker (sessionConfig path look) args p := by
          simp only [construct, hargs, hpath]
        rw [hopen]
        rcases openOn_cases linker (sessionConfig path look) args p with
          ⟨e, log, n, shared, he, hno⟩ | ⟨l, q, hl, hn, hq, hchanges⟩
        · refine .inl ⟨e, log, n, shared, he, fun texts l h => ?_⟩
          obtain ⟨w, hw, hold⟩ := h.argv
          cases hw
          obtain rfl := Except.ok.inj (hargs.symm.trans (Value.arguments_iff.mpr ⟨texts, hold, rfl⟩))
          obtain ⟨path', hpath', hl⟩ := h.library
          cases hpath.symm.trans hpath'
          exact hno l hl (by simpa using h.counted)
        · obtain ⟨texts, hold, rfl⟩ := Value.arguments_iff.mp hargs
          exact .inr ⟨texts, l, q, ⟨⟨v, rfl, hold⟩, by simpa using hn, path, hpath, hl⟩, hq, hchanges⟩

end ScopedEngine.Host
