/-
  ScopedEngine.Proofs.Tallying — the record's letters and counters tell the history of the calls.

  A call of an exported function adds a letter to the word of the history, makes the word empty, or
  leaves it, which its name decides (`word`). The letters are kept in a buffer that is never
  cleared: `Spells` says that it holds the first 256 of the word, a NUL right behind them, and
  nothing outside of its 257 bytes. The counters count the whole word (`Tells`).

  Main result, for every point of every script on engines of the recording library, with any
  exported functions as their entry points:
  - `record_tells_history`: the letters read are those of the word up to the room there is, the
    counters are exact beyond it, and on engines whose entry points match every finalizer letter
    answers an initializer letter before it.
-/

import Mathlib.Data.List.DropRight
import ScopedEngine.Proofs.Aliasing
import ScopedEngine.Proofs.Recording
import ScopedEngine.Proofs.Pairing
import ScopedEngine.Proofs.Points

namespace ScopedEngine

open Recorder

/-! ## The word of a history -/

/-- The letter of an exported function, by its name. -/
def letterOf? (name : String) : Option UInt8 :=
  if Names name "ket_init_new" ∨ Names name "ket_begin" then some initLetter
  else if Names name "ket_init_free" ∨ Names name "ket_end" then some finalizeLetter
  else none

namespace Call

/-- The name of the exported function that is called; probes export none. -/
def function? : Call → Option String
  | .init (.library l) _ _ _ => some l.symbols.init
  | .finalize _ (.library l) _ _ => some l.symbols.finalize
  | .reset => some "mock_ket_reset"
  | _ => none

/-- The call makes the record blank. -/
def resets (c : Call) : Bool := c.function?.any (Names · "mock_ket_reset")

def letter? (c : Call) : Option UInt8 := c.function?.bind letterOf?

end Call

/-- The letters of the calls since the record was last made blank, in order. -/
def word (calls : List Call) : List UInt8 := (calls.rtakeWhile (!·.resets)).filterMap Call.letter?

theorem word_append (calls : List Call) (c : Call) :
    word (calls ++ [c]) = if c.resets then [] else word calls ++ c.letter?.toList := by
  unfold word
  rw [List.rtakeWhile_concat]
  cases hc : c.resets with
  | true => simp
  | false =>
    cases hl : c.letter? with
    | none => simp [hl]
    | some letter => simp [hl]

theorem letterOf?_ne_zero {name : String} {letter : UInt8} (h : letterOf? name = some letter) :
    letter ≠ 0 := by
  unfold letterOf? at h
  split at h
  · cases h
    decide
  · split at h
    · cases h
      decide
    · cases h

/-- No letter is a NUL. -/
theorem word_ne_zero {calls : List Call} : ∀ letter ∈ word calls, letter ≠ 0 := by
  intro letter h
  obtain ⟨c, -, hc⟩ := List.mem_filterMap.mp h
  obtain ⟨name, -, hn⟩ := Option.bind_eq_some_iff.mp hc
  exact letterOf?_ne_zero hn

/-! ## The buffer -/

namespace Recorder

/-- The buffer holds the first letters of a word, as many as there is room for, and a NUL behind
    them. What stands behind the NUL is left over. -/
structure Spells (w : List UInt8) (r : Recorder) : Prop where
  noted : r.noted = min w.length maxEvents
  /-- No write has been outside of the buffer, which would have made it longer. -/
  size : r.letters.length = maxEvents + 1
  letters : r.letters.take r.noted = w.take maxEvents
  ends : r.letters[r.noted]? = some 0

variable {w : List UInt8} {r : Recorder}

/-- Where there is room, a letter and its NUL are written over two bytes and no others. -/
theorem note_letters {letter : UInt8} (hr : r.noted < maxEvents) :
    (r.note letter).letters =
      (r.letters.take r.noted ++ [letter]) ++ 0 :: r.letters.drop (r.noted + 2) := by
  simp [note, hr, overwrite]

theorem note_full {letter : UInt8} (hr : ¬ r.noted < maxEvents) : r.note letter = r := by
  simp [note, hr]

theorem Spells.note (h : Spells w r) (letter : UInt8) : Spells (w ++ [letter]) (r.note letter) := by
  have hnoted := h.noted
  have hsize := h.size
  by_cases hr : r.noted < maxEvents
  -- While there is room the whole word stands in the buffer, so the new letter goes behind it.
  · have hw : r.noted = w.length := by omega
    have hn : (r.note letter).noted = r.noted + 1 := by simp [Recorder.note, hr]
    have hfit : (r.letters.take r.noted ++ [letter]).length = r.noted + 1 := by
      rw [List.length_append, List.length_take, List.length_singleton]
      omega
    refine ⟨?_, ?_, ?_, ?_⟩
    · rw [hn, List.length_append, List.length_singleton]
      omega
    · rw [note_letters hr, List.length_append, hfit, List.length_cons, List.length_drop]
      omega
    · have hcut : w.take maxEvents = w := List.take_of_length_le (by omega)
      have hcut' : (w ++ [letter]).take maxEvents = w ++ [letter] :=
        List.take_of_length_le (by rw [List.length_append, List.length_singleton]; omega)
      rw [hn, note_letters hr, List.take_left' hfit, h.letters, hcut, hcut']
    · rw [hn, note_letters hr, List.getElem?_append_right (by omega), hfit]
      simp
  · rw [note_full hr]
    have hfull : maxEvents ≤ w.length := by omega
    refine ⟨?_, hsize, ?_, h.ends⟩
    · rw [List.length_append, List.length_singleton]
      omega
    · rw [h.letters, List.take_append_of_le_length hfull]

theorem spells_blank : Spells [] blank := by
  refine ⟨rfl, List.length_replicate, rfl, ?_⟩
  simp [blank]

/-- The letters that are left over stand behind a NUL. -/
theorem Spells.reset (h : Spells w r) : Spells [] r.reset := by
  have hsize := h.size
  refine ⟨rfl, ?_, rfl, ?_⟩
  · simp only [Recorder.reset, overwrite, List.nil_append, List.length_append,
      List.length_singleton, List.length_drop, List.length_nil]
    omega
  · simp [Recorder.reset, overwrite, blank]

/-- What is read of the buffer. -/
theorem Spells.cString (h : Spells w r) (hw : ∀ letter ∈ w, letter ≠ 0) :
    Argv.cString r.letters = w.take maxEvents := by
  obtain ⟨hlt, hnul⟩ := List.getElem?_eq_some_iff.mp h.ends
  have hsplit : r.letters = w.take maxEvents ++ 0 :: r.letters.drop (r.noted + 1) := by
    rw [← h.letters, ← hnul, ← List.drop_eq_getElem_cons hlt, List.take_append_drop]
  have hletters : (0 : UInt8) ∉ w.take maxEvents := fun h0 => hw 0 (List.mem_of_mem_take h0) rfl
  rw [hsplit, Argv.cString_append_cons hletters]

/-! ## The counters -/

/-- The record of the calls that have added up to a word. -/
structure Tells (w : List UInt8) (r : Recorder) : Prop where
  spells : Spells w r
  initCalls : r.initCalls = w.count initLetter
  freeCalls : r.freeCalls = w.count finalizeLetter

/-- The buffer knows nothing of the other parts of the record. -/
theorem Spells.of_eq {r' : Recorder} (h : Spells w r) (hl : r'.letters = r.letters)
    (hn : r'.noted = r.noted) : Spells w r' :=
  ⟨by rw [hn, h.noted], by rw [hl, h.size], by rw [hl, hn, h.letters], by rw [hl, hn, h.ends]⟩

theorem Tells.recordInit (h : Tells w r) (argc : Nat) (seen : List (Option Bytes)) :
    Tells (w ++ [initLetter]) (r.recordInit argc seen) := by
  have hcounted : Spells w { r with initCalls := r.initCalls + 1 } := h.spells.of_eq rfl rfl
  have hnote := hcounted.note initLetter
  obtain ⟨letters, n, he⟩ := note_eq { r with initCalls := r.initCalls + 1 } initLetter
  rw [he] at hnote
  rw [Recorder.recordInit, he]
  refine ⟨hnote.of_eq rfl rfl, ?_, ?_⟩
  · simp [h.initCalls]
  · simp [h.freeCalls, initLetter, finalizeLetter]

theorem Tells.recordFinalize (h : Tells w r) : Tells (w ++ [finalizeLetter]) r.recordFinalize := by
  have hcounted : Spells w { r with freeCalls := r.freeCalls + 1 } := h.spells.of_eq rfl rfl
  have hnote := hcounted.note finalizeLetter
  obtain ⟨letters, n, he⟩ := note_eq { r with freeCalls := r.freeCalls + 1 } finalizeLetter
  rw [he] at hnote
  rw [Recorder.recordFinalize, he]
  refine ⟨hnote, ?_, ?_⟩
  · simp [h.initCalls, initLetter, finalizeLetter]
  · simp [h.freeCalls]

theorem tells_blank : Tells [] blank := ⟨spells_blank, rfl, rfl⟩

theorem Tells.reset (h : Tells w r) : Tells [] r.reset := ⟨h.spells.reset, rfl, rfl⟩

end Recorder

/-! ## Calls -/

/-- The word after a call of an exported function. -/
def EntryPoint.after (w : List UInt8) : EntryPoint → List UInt8
  | .init => w ++ [initLetter]
  | .finalize => w ++ [finalizeLetter]
  | .reset => []
  | .inspect => w

namespace Recorder

variable {w : List UInt8} {r : Recorder}

theorem Tells.callInit (h : Tells w r) (f : EntryPoint) (v : Argv) :
    Tells (f.after w) (r.callInit f v) := by
  cases f with
  | init => exact h.recordInit v.argc v.seen
  | finalize => exact h.recordFinalize
  | reset => exact h.reset
  | inspect => exact h

theorem Tells.callFinalize (h : Tells w r) (f : EntryPoint) :
    Tells (f.after w) (r.callFinalize f) := by
  cases f with
  | init => exact h.recordInit 0 []
  | finalize => exact h.recordFinalize
  | reset => exact h.reset
  | inspect => exact h

end Recorder

/-- A name adds to the word what the function adds for which it stands. -/
theorem after_eq {shown name : String} {f : EntryPoint}
    (h : (Linker.recorderImage shown).find name = .ok f) (w : List UInt8) :
    f.after w = if Names name "mock_ket_reset" then [] else w ++ (letterOf? name).toList := by
  obtain ⟨hinit, hreset⟩ := names_iff h
  have hfinalize := names_finalize_iff h
  simp only [letterOf?, hinit, hreset, hfinalize]
  cases f <;> simp [EntryPoint.after]

/-- The word after a call of an exported function is what its name says. -/
theorem word_of_function {c : Call} {name : String} (h : c.function? = some name)
    (calls : List Call) : word (calls ++ [c]) =
      if Names name "mock_ket_reset" then [] else word calls ++ (letterOf? name).toList := by
  rw [word_append]
  simp [Call.resets, Call.letter?, h]

theorem word_of_none {c : Call} (h : c.function? = none) (calls : List Call) :
    word (calls ++ [c]) = word calls := by
  rw [word_append]
  simp [Call.resets, Call.letter?, h]

namespace Engine

variable {files : Files} {e : Engine} {calls : List Call} {r : Recorder}

theorem onInit_tells (hl : e.Linked (.ofFiles files)) (h : Tells (word calls) r) (args : List Bytes)
    (n : Nat) (o : Outcome Unit) (v : Argv) :
    Tells (word (calls ++ [.init e args n o])) (e.onInit r v) := by
  cases e with
  | probe id name =>
    rw [word_of_none rfl]
    exact h
  | library l =>
    obtain ⟨shown, hf, -⟩ := hl.finds
    rw [word_of_function rfl, ← after_eq hf]
    exact h.callInit _ v

theorem onFinalize_tells (hl : e.Linked (.ofFiles files)) (h : Tells (word calls) r) (k n : Nat)
    (o : Outcome Unit) : Tells (word (calls ++ [.finalize k e n o])) (e.onFinalize r) := by
  cases e with
  | probe id name =>
    rw [word_of_none rfl]
    exact h
  | library l =>
    obtain ⟨shown, -, hg⟩ := hl.finds
    rw [word_of_function rfl, ← after_eq hg]
    exact h.callFinalize _

end Engine

namespace World

variable {files : Files} {v w : World}

theorem Move.tells (hm : Move (.ofFiles files) v w) (hv : Reach (.ofFiles files) v)
    (h : Tells (word v.process.calls) v.process.recorder) :
    Tells (word w.process.calls) w.process.recorder := by
  cases hm with
  | load _ hl =>
    obtain ⟨log, n, shared, hr⟩ := hl.changes
    simp only [World.loaded, hr]
    exact h
  | probe p es held probe => exact h
  | forget _ => exact h
  | opens he hs =>
    obtain ⟨rfl, probes, rfl⟩ := Session.start_returned hs
    exact Engine.onInit_tells (hv.linked.engines _ he) h _ _ _ _
  | refuses he hs =>
    obtain rfl | ⟨probes, rfl⟩ := Session.start_panicked hs
    · exact h
    · exact Engine.onInit_tells (hv.linked.engines _ he) h _ _ _ _
  | drop p es s held =>
    have hs : s.state = .active := hv.balanced.ledger.paired.active s List.mem_cons_self
    obtain ⟨o, probes, hd⟩ := Session.drop_active hs p
    simp only [hd]
    exact Engine.onFinalize_tells (hv.linked.held s List.mem_cons_self) h _ _ _
  | pass _ => exact h
  | reset p es held =>
    show Tells (word (p.calls ++ [.reset])) p.recorder.reset
    have hreset : Names "mock_ket_reset" "mock_ket_reset" := by decide +kernel
    rw [word_of_function rfl, if_pos hreset]
    exact Tells.reset h

theorem Reach.tells (h : Reach (.ofFiles files) w) :
    Tells (word w.process.calls) w.process.recorder := by
  induction h with
  | refl => exact tells_blank
  | tail hv hm ih => exact hm.tells hv ih

end World

/-! ## Matching entry points -/

/-- The initializer is one of the functions that write `I`, the finalizer one of those that write
    `F`. So it is with the default names and with their aliases. -/
def Symbols.Match (s : Symbols) : Prop :=
  (Names s.init "ket_init_new" ∨ Names s.init "ket_begin") ∧
    (Names s.finalize "ket_init_free" ∨ Names s.finalize "ket_end")

instance (s : Symbols) : Decidable s.Match := inferInstanceAs (Decidable (_ ∧ _))

/-- Probes leave the record alone. -/
def Engine.Match : Engine → Prop
  | .library l => l.symbols.Match
  | .probe _ _ => True

instance : (e : Engine) → Decidable e.Match
  | .library l => inferInstanceAs (Decidable l.symbols.Match)
  | .probe _ _ => instDecidableTrue

/-- A call on such an engine; none that makes the record blank. -/
def Call.Match : Call → Prop
  | .init e _ _ _ => e.Match
  | .finalize _ e _ _ => e.Match
  | .reset => False

instance : (c : Call) → Decidable c.Match
  | .init e _ _ _ => inferInstanceAs (Decidable e.Match)
  | .finalize _ e _ _ => inferInstanceAs (Decidable e.Match)
  | .reset => instDecidableFalse

variable {calls : List Call} {held : List Session}

theorem word_init {l : Library} (h : l.symbols.Match) (args : List Bytes) (n : Nat)
    (o : Outcome Unit) :
    word (calls ++ [.init (.library l) args n o]) = word calls ++ [initLetter] := by
  have hreset : ¬ Names l.symbols.init "mock_ket_reset" :=
    Names.excludes h.1 (by decide +kernel) (by decide +kernel)
  rw [word_of_function rfl, if_neg hreset, letterOf?, if_pos h.1]
  rfl

theorem word_finalize {l : Library} (h : l.symbols.Match) (k n : Nat) (o : Outcome Unit) :
    word (calls ++ [.finalize k (.library l) n o]) = word calls ++ [finalizeLetter] := by
  have hreset : ¬ Names l.symbols.finalize "mock_ket_reset" :=
    Names.excludes h.2 (by decide +kernel) (by decide +kernel)
  have hinit : ¬ (Names l.symbols.finalize "ket_init_new" ∨
      Names l.symbols.finalize "ket_begin") := by
    rintro (hn | hn)
    · exact Names.excludes h.2 (by decide +kernel) (by decide +kernel) hn
    · exact Names.excludes h.2 (by decide +kernel) (by decide +kernel) hn
  rw [word_of_function rfl, if_neg hreset, letterOf?, if_neg hinit, if_pos h.2]
  rfl

def Engine.isLibrary : Engine → Bool
  | .library _ => true
  | .probe _ _ => false

/-- The sessions that are held account for the initializer letters that no finalizer letter has
    answered, and none is answered before it is written. -/
structure Answered (held : List Session) (w : List UInt8) : Prop where
  count : w.count initLetter = w.count finalizeLetter + held.countP (·.engine.isLibrary)
  ahead : ∀ u, u <+: w → u.count finalizeLetter ≤ u.count initLetter

namespace Answered

variable {w : List UInt8} {letter : UInt8}

/-- Of a word that a letter is added to only the whole is a new beginning. -/
theorem concat {held' : List Session} (h : Answered held w)
    (hcount : (w ++ [letter]).count initLetter =
      (w ++ [letter]).count finalizeLetter + held'.countP (·.engine.isLibrary)) :
    Answered held' (w ++ [letter]) := by
  refine ⟨hcount, fun u hu => ?_⟩
  rcases List.prefix_concat_iff.mp hu with rfl | hu
  · omega
  · exact h.ahead u hu

theorem opened (h : Answered held w) {s : Session} (hs : s.engine.isLibrary = true) :
    Answered (s :: held) (w ++ [initLetter]) := by
  refine h.concat ?_
  have hcount := h.count
  have hne : (initLetter == finalizeLetter) = false := rfl
  simp only [List.count_append, List.count_singleton_self, List.count_singleton, hne,
    List.countP_cons, hs, if_true]
  simp
  omega

theorem ended {s : Session} (h : Answered (s :: held) w) (hs : s.engine.isLibrary = true) :
    Answered held (w ++ [finalizeLetter]) := by
  refine h.concat ?_
  have hcount := h.count
  have hne : (finalizeLetter == initLetter) = false := rfl
  simp only [List.countP_cons, hs, if_true] at hcount
  simp only [List.count_append, List.count_singleton_self, List.count_singleton, hne]
  simp
  omega

/-- A session on a probe has no letters. -/
theorem unlettered {s : Session} (hs : s.engine.isLibrary = false) :
    Answered (s :: held) w ↔ Answered held w := by
  have hc : (s :: held).countP (·.engine.isLibrary) = held.countP (·.engine.isLibrary) := by
    simp [hs]
  constructor
  · intro h
    exact ⟨hc ▸ h.count, h.ahead⟩
  · intro h
    exact ⟨by rw [hc, h.count], h.ahead⟩

end Answered

/-- The initializer of a library returns. -/
def Call.Returns : Call → Prop
  | .init (.library _) _ _ o => o = .returned ()
  | _ => True

theorem World.Move.returns {linker : Linker} {v w : World} (hm : Move linker v w)
    (hv : Reach linker v) (h : ∀ c ∈ v.process.calls, c.Returns) :
    ∀ c ∈ w.process.calls, c.Returns := by
  have hlast : ∀ {c : Call}, c.Returns → ∀ d ∈ v.process.calls ++ [c], d.Returns := by
    intro c hc d hd
    rcases List.mem_append.mp hd with hd | hd
    · exact h d hd
    · rw [List.mem_singleton.mp hd]
      exact hc
  cases hm with
  | load _ hl =>
    obtain ⟨log, n, shared, hr⟩ := hl.changes
    simp only [World.loaded, hr]
    exact h
  | probe p es held probe => exact h
  | forget _ => exact h
  | @opens _ _ _ _ e _ _ _ hs =>
    obtain ⟨-, probes, rfl⟩ := Session.start_returned hs
    cases e with
    | library l => exact hlast rfl
    | probe id name => exact hlast trivial
  | @refuses _ _ _ _ e _ _ _ hs =>
    cases e with
    -- A library is refused for too many arguments only, and then it is not called.
    | library l =>
      rw [Session.start_library_panicked hs]
      exact h
    | probe id name =>
      obtain rfl | ⟨probes, rfl⟩ := Session.start_panicked hs
      · exact h
      · exact hlast trivial
  | drop p es s held =>
    have hs : s.state = .active := hv.balanced.ledger.paired.active s List.mem_cons_self
    obtain ⟨o, probes, hd⟩ := Session.drop_active hs p
    simp only [hd]
    exact hlast trivial
  | pass _ => exact h
  | reset p es held => exact hlast trivial

theorem World.Reach.returns {linker : Linker} {w : World} (h : Reach linker w) :
    ∀ c ∈ w.process.calls, c.Returns := by
  induction h with
  | refl => exact fun c hc => nomatch hc
  | tail hv hm ih => exact hm.returns hv ih

/-- On engines that match the letters come and go with the sessions. -/
theorem Ledger.answered (h : Ledger held calls) (hmatch : ∀ c ∈ calls, c.Match)
    (hret : ∀ c ∈ calls, c.Returns) : Answered held (word calls) := by
  induction h with
  | nil =>
    refine ⟨rfl, fun u hu => ?_⟩
    rw [List.prefix_nil.mp hu]
    exact Nat.le_refl 0
  | opened e args _ ih =>
    rw [List.forall_mem_append] at hmatch hret
    have ih := ih hmatch.1 hret.1
    cases e with
    | library l =>
      rw [word_init (hmatch.2 _ List.mem_cons_self)]
      exact ih.opened rfl
    | probe id name =>
      rw [word_of_none rfl]
      exact (Answered.unlettered rfl).mpr ih
  | refused e args m _ ih =>
    rw [List.forall_mem_append] at hmatch hret
    cases e with
    -- Its letter would be answered by nothing: no session is held for it.
    | library l => cases hret.2 _ List.mem_cons_self
    | probe id name =>
      rw [word_of_none rfl]
      exact ih hmatch.1 hret.1
  | ended s o _ ih =>
    rw [List.forall_mem_append] at hmatch hret
    have ih := ih hmatch.1 hret.1
    obtain ⟨place, e, state⟩ := s
    cases e with
    | library l =>
      rw [word_finalize (hmatch.2 _ List.mem_cons_self)]
      exact ih.ended rfl
    | probe id name =>
      rw [word_of_none rfl]
      exact (Answered.unlettered rfl).mp ih
  | reset _ _ =>
    rw [List.forall_mem_append] at hmatch
    exact (hmatch.2 _ List.mem_cons_self).elim
  | pass _ hp ih =>
    have ih := ih hmatch hret
    exact ⟨by rw [ih.count, hp.countP_eq], ih.ahead⟩

/-! ## Runs -/

namespace Script

variable {ρ : Type} {files : Files} {scopes : List Session} {s : State}

/-- The letters read are the first 256 of the word of the history, the buffer ends in a NUL and
    has never been written outside of its 257 bytes, and the counters count the whole word. On
    engines whose entry points match, every beginning of the word has as many initializer letters
    as finalizer letters or more; the sessions that are held make the difference, so at the end
    there is none. An observer keeps the handle open through which all this is read, so that the
    recording engine stays loaded (`Process.recorder`). -/
theorem record_tells_history (h : Point ρ (.ofFiles files) scopes s) :
    let r := s.process.recorder
    let w := word s.process.calls
    (Argv.cString r.letters = w.take maxEvents ∧
      r.events = (w.take maxEvents).map Char.ofUInt8) ∧
    (r.letters.length = maxEvents + 1 ∧ r.letters[min w.length maxEvents]? = some 0 ∧
      ∀ letter, (r.note letter).letters.length = maxEvents + 1) ∧
    (r.initCalls = w.count initLetter ∧ r.freeCalls = w.count finalizeLetter) ∧
    ((∀ c ∈ s.process.calls, c.Match) →
      (∀ u, u <+: w → u.count finalizeLetter ≤ u.count initLetter) ∧
      w.count initLetter =
        w.count finalizeLetter + (s.held scopes).countP (·.engine.isLibrary) ∧
      (s.held scopes = [] → w.count initLetter = w.count finalizeLetter)) := by
  intro r w
  have ht : Tells w r := h.reach.tells
  have hread := ht.spells.cString word_ne_zero
  refine ⟨⟨hread, by rw [Recorder.events, hread]⟩, ⟨ht.spells.size, ?_, fun letter => ?_⟩,
    ⟨ht.initCalls, ht.freeCalls⟩, fun hmatch => ?_⟩
  · rw [← ht.spells.noted]
    exact ht.spells.ends
  · exact (ht.spells.note letter).size
  · have ha := h.reach.balanced.ledger.answered hmatch h.reach.returns
    refine ⟨ha.ahead, ha.count, fun hheld => ?_⟩
    have hcount := ha.count
    rw [show (s.world scopes).held = [] from hheld] at hcount
    exact hcount

/-- Sessions that overlap, on the engine's two pairs of names. -/
def braid : List (Step Unit) :=
  [.load .plain "e" ⟨[0x2f, 0x6d], ⟨"ket_init_new", "ket_init_free"⟩⟩,
   .load .plain "f" ⟨[0x2f, 0x6e], ⟨"ket_begin", "ket_end"⟩⟩,
   .start "a" "e" [], .start "b" "f" [], .close "a", .start "c" "e" [], .drop "c", .close "b"]

theorem braid_record_tells_history :
    let s := (run (.ofFiles ⟨.directory [([0x6d], .image "m"), ([0x6e], .image "m")], []⟩) braid
      .fresh).2
    s.process.recorder.events = ['I', 'I', 'F', 'I', 'F', 'F'] ∧
    (∀ c ∈ s.process.calls, c.Match) ∧ s.held [] = [] ∧
    (word s.process.calls).count initLetter = (word s.process.calls).count finalizeLetter :=
  ⟨by decide +kernel, by decide +kernel, by decide +kernel,
    ((record_tells_history (Point.fresh.run braid)).2.2.2 (by decide +kernel)).2.2
      (by decide +kernel)⟩

end Script

end ScopedEngine
