/-
  ScopedEngine.Proofs.Recording — the record shows the last initializer call and nothing older.

  The rows of the record are reused without being cleared. `Shows` is the invariant: the table has
  its size, and each row of the last call reads as its argument up to the first NUL, cut to leave
  room for one. Rows behind the last call may hold anything, for the count of arguments keeps them
  from being read.

  Main result, for every point of every script whose engines record what they are called with:
  - `record_is_last_call`: the record is that of the last initializer call since it was last made
    blank, argument by argument, and of nothing before.
-/

import Mathlib.Data.List.TakeWhile
import ScopedEngine.Proofs.Aliasing
import ScopedEngine.Proofs.Linking
import ScopedEngine.Proofs.Pairing
import ScopedEngine.Proofs.Points

namespace ScopedEngine

/-! ## Writing at several places -/

section Modify

variable {α β : Type} (f : β → α → α) {cs : List (Nat × β)} (l : List α)

theorem length_foldl_modify : (cs.foldl (fun l c => l.modify c.1 (f c.2)) l).length = l.length := by
  induction cs generalizing l with
  | nil => rfl
  | cons c cs ih => rw [List.foldl_cons, ih, List.length_modify]

theorem getElem?_foldl_modify_of_not_mem {i : Nat} (h : i ∉ cs.map Prod.fst) :
    (cs.foldl (fun l c => l.modify c.1 (f c.2)) l)[i]? = l[i]? := by
  induction cs generalizing l with
  | nil => rfl
  | cons c cs ih =>
    rw [List.map_cons, List.mem_cons, not_or] at h
    rw [List.foldl_cons, ih _ h.2, List.getElem?_modify_ne _ _ (Ne.symm h.1)]

/-- Each place is written once. -/
theorem getElem?_foldl_modify {i : Nat} {b : β} (hn : (cs.map Prod.fst).Nodup) (h : (i, b) ∈ cs) :
    (cs.foldl (fun l c => l.modify c.1 (f c.2)) l)[i]? = l[i]?.map (f b) := by
  induction cs generalizing l with
  | nil => cases h
  | cons c cs ih =>
    rw [List.map_cons, List.nodup_cons] at hn
    rw [List.foldl_cons]
    rcases List.mem_cons.mp h with rfl | h
    · rw [getElem?_foldl_modify_of_not_mem f _ hn.1, List.getElem?_modify_eq]
      rfl
    · have hne : c.1 ≠ i := by
        rintro rfl
        exact hn.1 (List.mem_map.mpr ⟨_, h, rfl⟩)
      rw [ih _ hn.2 h, List.getElem?_modify_ne _ _ hne]

end Modify

namespace Recorder

/-! ## One initializer call -/

/-- What the record shows of an argument. -/
def excerpt (t : Bytes) : Bytes := (Argv.cString t).take (rowLength - 1)

theorem mem_copies {argc i : Nat} {seen : List (Option Bytes)} {s : Bytes} :
    (i, s) ∈ copies argc seen ↔
      i < argc ∧ i < maxArgs ∧ ∃ t, seen[i]? = some (some t) ∧ t.take (rowLength - 1) = s := by
  simp only [copies, List.mem_filterMap, List.mem_zipIdx_iff_getElem?, Prod.exists,
    List.getElem?_take]
  constructor
  · rintro ⟨u, j, hj, hu⟩
    obtain ⟨t, rfl, ht⟩ := Option.map_eq_some_iff.mp hu
    cases ht
    split at hj
    · next hmax =>
      split at hj
      · next hargc => exact ⟨hargc, hmax, t, hj, rfl⟩
      · cases hj
    · cases hj
  · rintro ⟨hargc, hmax, t, ht, rfl⟩
    exact ⟨some t, i, by rw [if_pos hmax, if_pos hargc, ht], rfl⟩

/-- Nothing is written outside of the table. -/
theorem copies_fit {argc : Nat} {seen : List (Option Bytes)} {c : Nat × Bytes}
    (h : c ∈ copies argc seen) : c.1 < maxArgs ∧ c.2.length + 1 ≤ rowLength := by
  obtain ⟨-, hmax, t, -, ht⟩ := mem_copies.mp h
  refine ⟨hmax, ?_⟩
  rw [← ht, List.length_take]
  simp only [rowLength]
  omega

theorem copies_nodup (argc : Nat) (seen : List (Option Bytes)) :
    ((copies argc seen).map Prod.fst).Nodup := by
  have hz : (((seen.take argc).take maxArgs).zipIdx.map Prod.snd).Nodup := by
    rw [List.zipIdx_map_snd]
    exact List.nodup_range'
  refine List.pairwise_map.mpr (List.pairwise_filterMap.mpr ((List.pairwise_map.mp hz).imp ?_))
  rintro ⟨u, i⟩ ⟨w, j⟩ hne c hc d hd
  obtain ⟨-, -, rfl⟩ := Option.map_eq_some_iff.mp hc
  obtain ⟨-, -, rfl⟩ := Option.map_eq_some_iff.mp hd
  exact hne

theorem overwrite_length {s row : Bytes} (h : s.length + 1 ≤ row.length) :
    (overwrite s row).length = row.length := by
  simp only [overwrite, List.length_append, List.length_singleton, List.length_drop]
  omega

/-- No row grows or shrinks. -/
theorem foldl_copyRow_row {cs : List (Nat × Bytes)} {rows : List Bytes}
    (hc : ∀ c ∈ cs, c.2.length + 1 ≤ rowLength) (hr : ∀ row ∈ rows, row.length = rowLength) :
    ∀ row ∈ cs.foldl copyRow rows, row.length = rowLength := by
  induction cs generalizing rows with
  | nil => exact hr
  | cons c cs ih =>
    refine ih (fun d hd => hc d (List.mem_cons_of_mem _ hd)) fun row hrow => ?_
    obtain ⟨i, hi⟩ := List.mem_iff_getElem?.mp hrow
    rw [copyRow, List.getElem?_modify] at hi
    obtain ⟨old, hold, rfl⟩ := Option.map_eq_some_iff.mp hi
    have hlen := hr old (List.mem_of_getElem? hold)
    have hfit := hc c List.mem_cons_self
    split
    · rw [overwrite_length (by omega), hlen]
    · exact hlen

/-- The row of an argument that is copied, and its length. -/
theorem rows_of_mem {argc i : Nat} {seen : List (Option Bytes)} {s : Bytes}
    (h : (i, s) ∈ copies argc seen) (rows : List Bytes) :
    ((copies argc seen).foldl copyRow rows)[i]? = rows[i]?.map (overwrite s) :=
  getElem?_foldl_modify overwrite rows (copies_nodup argc seen) h

theorem lengths_of_mem {argc i : Nat} {seen : List (Option Bytes)} {s : Bytes}
    (h : (i, s) ∈ copies argc seen) (lengths : List Nat) :
    ((copies argc seen).foldl copyLength lengths)[i]? = lengths[i]?.map fun _ => s.length :=
  getElem?_foldl_modify (fun (s : Bytes) _ => s.length) lengths (copies_nodup argc seen) h

/-- The text in a row ends at the NUL written behind it, whatever the row held. -/
theorem cString_overwrite {s : Bytes} (hs : ∀ c ∈ s, c ≠ 0) (row : Bytes) :
    Argv.cString (overwrite s row) = s := by
  have hnul : (0 : UInt8) ∉ s := fun h => hs 0 h rfl
  rw [overwrite, List.append_assoc]
  exact Argv.cString_append_cons hnul _

theorem excerpt_no_nul {t : Bytes} : ∀ c ∈ excerpt t, c ≠ 0 := by
  intro c hc
  simpa using List.mem_takeWhile_imp (List.mem_of_mem_take hc)

/-! ## The invariant -/

/-- The record is that of an initializer call with the arguments `A`, or of none since it was
    blank. -/
structure Shows (A : Option (List Bytes)) (r : Recorder) : Prop where
  rows : r.rows.length = maxArgs
  row : ∀ row ∈ r.rows, row.length = rowLength
  lengths : r.lengths.length = maxArgs
  argc : r.lastArgc = A.elim (-1) fun args => (args.length : Int)
  terminated : r.nullTerminated = A.isSome
  texts : ∀ args, A = some args → ∀ (i : Nat) (t : Bytes), args[i]? = some t → i < maxArgs →
    (∃ row, r.rows[i]? = some row ∧ Argv.cString row = excerpt t) ∧
      r.lengths[i]? = some (excerpt t).length

theorem blank_shows : Shows none blank := by
  refine ⟨List.length_replicate, fun row h => ?_, List.length_replicate, rfl, rfl, nofun⟩
  rw [List.eq_of_mem_replicate h]
  exact List.length_replicate

/-- Making the record blank leaves letters in their buffer, which is none of the rows. -/
theorem reset_shows (r : Recorder) : Shows none r.reset :=
  ⟨blank_shows.rows, blank_shows.row, blank_shows.lengths, rfl, rfl, nofun⟩

theorem note_eq (r : Recorder) (letter : UInt8) :
    ∃ letters n, r.note letter = { r with letters := letters, noted := n } := by
  unfold note
  split
  · exact ⟨_, _, rfl⟩
  · exact ⟨r.letters, r.noted, rfl⟩

namespace Shows

variable {A : Option (List Bytes)} {r : Recorder}

theorem recordFinalize (h : Shows A r) : Shows A r.recordFinalize := by
  obtain ⟨letters, n, he⟩ := note_eq { r with freeCalls := r.freeCalls + 1 } finalizeLetter
  rw [Recorder.recordFinalize, he]
  exact ⟨h.rows, h.row, h.lengths, h.argc, h.terminated, h.texts⟩

/-- Whatever the rows held before, they show the arguments of the call. -/
theorem recordInit (h : Shows A r) (args : List Bytes) :
    Shows (some args) (r.recordInit (Argv.ofList args).argc (Argv.ofList args).seen) := by
  obtain ⟨letters, n, he⟩ := note_eq { r with initCalls := r.initCalls + 1 } initLetter
  rw [Recorder.recordInit, he]
  refine ⟨?_, ?_, ?_, rfl, ?_, ?_⟩
  · exact (length_foldl_modify overwrite _).trans h.rows
  · exact foldl_copyRow_row (fun c hc => (copies_fit hc).2) h.row
  · exact (length_foldl_modify (fun (s : Bytes) _ => s.length) _).trans h.lengths
  · show decide _ = true
    exact decide_eq_true (Argv.seen_ofList_end args)
  · rintro _ ⟨⟩ i t ht hi
    have hmem : (i, excerpt t) ∈ copies (Argv.ofList args).argc (Argv.ofList args).seen :=
      mem_copies.mpr ⟨(List.getElem?_eq_some_iff.mp ht).1, hi, _, Argv.seen_ofList ht, rfl⟩
    have hrow : i < r.rows.length := by rw [h.rows]; exact hi
    have hlen : i < r.lengths.length := by rw [h.lengths]; exact hi
    -- No row is written twice, so what stands in row `i` is this excerpt over the old row.
    constructor
    · refine ⟨overwrite (excerpt t) r.rows[i], ?_, cString_overwrite excerpt_no_nul _⟩
      rw [rows_of_mem hmem, List.getElem?_eq_getElem hrow, Option.map_some]
    · rw [lengths_of_mem hmem, List.getElem?_eq_getElem hlen, Option.map_some]

/-! ## What can be read -/

theorem unread (h : Shows none r) (i : Int) : r.lastArg? i = none ∧ r.lastArgLength i = 0 := by
  have hi : r.inRange i = false := by
    simp only [inRange, h.argc, Option.elim_none, Bool.and_eq_false_iff, decide_eq_false_iff_not]
    omega
  simp [lastArg?, lastArgLength, hi]

theorem outside {args : List Bytes} (h : Shows (some args) r) {i : Int}
    (hi : i < 0 ∨ (min args.length maxArgs : Nat) ≤ i) :
    r.lastArg? i = none ∧ r.lastArgLength i = 0 := by
  have hi : r.inRange i = false := by
    simp only [inRange, h.argc, Option.elim_some, Bool.and_eq_false_iff, decide_eq_false_iff_not]
    omega
  simp [lastArg?, lastArgLength, hi]

theorem arg {args : List Bytes} (h : Shows (some args) r) {i : Nat} {t : Bytes}
    (ht : args[i]? = some t) (hi : i < maxArgs) :
    r.lastArg? i = some (excerpt t) ∧ r.lastArgLength i = (excerpt t).length := by
  have hlt := (List.getElem?_eq_some_iff.mp ht).1
  have hin : r.inRange i = true := by
    simp only [inRange, h.argc, Option.elim_some, Bool.and_eq_true, decide_eq_true_eq]
    omega
  obtain ⟨⟨row, hrow, htext⟩, hlen⟩ := h.texts args rfl i t ht hi
  simp [lastArg?, lastArgLength, hin, hrow, htext, hlen]

end Shows

end Recorder

/-! ## Runs -/

/-- The initializer is the function that records its arguments, under one of its two names; the
    finalizer is any other. -/
def Symbols.Records (s : Symbols) : Prop :=
  (Names s.init "ket_init_new" ∨ Names s.init "ket_begin") ∧
    ¬ (Names s.finalize "ket_init_new" ∨ Names s.finalize "ket_begin")

instance (s : Symbols) : Decidable s.Records := inferInstanceAs (Decidable (_ ∧ _))

/-- Probes leave the record alone. -/
def Engine.Records : Engine → Prop
  | .library l => l.symbols.Records
  | .probe _ _ => True

instance : (e : Engine) → Decidable e.Records
  | .library l => inferInstanceAs (Decidable l.symbols.Records)
  | .probe _ _ => instDecidableTrue

def Call.Records : Call → Prop
  | .init e _ _ _ => e.Records
  | .finalize _ e _ _ => e.Records
  | .reset => True

instance : (c : Call) → Decidable c.Records
  | .init e _ _ _ => inferInstanceAs (Decidable e.Records)
  | .finalize _ e _ _ => inferInstanceAs (Decidable e.Records)
  | .reset => instDecidableTrue

/-- The arguments of the last initializer call of a library after a call, if there were those of
    `A` before it. A finalizer may be the function that makes the record blank. -/
def Call.lastArgs (A : Option (List Bytes)) : Call → Option (List Bytes)
  | .init (.library _) args _ _ => some args
  | .finalize _ (.library l) _ _ => if Names l.symbols.finalize "mock_ket_reset" then none else A
  | .reset => none
  | _ => A

/-- The arguments of the last initializer call since the record was last made blank. -/
def lastArgs (calls : List Call) : Option (List Bytes) := calls.foldl Call.lastArgs none

theorem lastArgs_append (calls : List Call) (c : Call) :
    lastArgs (calls ++ [c]) = c.lastArgs (lastArgs calls) := by
  simp [lastArgs]

open Recorder

namespace Engine

variable {files : Files} {e : Engine} {A : Option (List Bytes)} {r : Recorder}

theorem onInit_shows (hl : e.Linked (.ofFiles files)) (hr : e.Records) (h : Shows A r)
    (args : List Bytes) (n : Nat) (o : Outcome Unit) :
    Shows ((Call.init e args n o).lastArgs A) (e.onInit r (.ofList args)) := by
  cases e with
  | probe id name => exact h
  | library l =>
    obtain ⟨shown, hf, -⟩ := hl.finds
    have hinit : l.entries.init = .init := (names_iff hf).1.mp hr.1
    simp only [onInit, hinit]
    exact h.recordInit args

theorem onFinalize_shows (hl : e.Linked (.ofFiles files)) (hr : e.Records) (h : Shows A r)
    (k n : Nat) (o : Outcome Unit) :
    Shows ((Call.finalize k e n o).lastArgs A) (e.onFinalize r) := by
  cases e with
  | probe id name => exact h
  | library l =>
    obtain ⟨shown, -, hg⟩ := hl.finds
    have hinit : l.entries.finalize ≠ .init := fun he => hr.2 ((names_iff hg).1.mpr he)
    have hreset := (names_iff hg).2
    simp only [onFinalize, Call.lastArgs, hreset]
    cases hf : l.entries.finalize with
    | init => exact absurd hf hinit
    | finalize => exact h.recordFinalize
    | reset => exact reset_shows r
    | inspect => exact h

end Engine

namespace World

variable {files : Files} {v w : World}

theorem Move.shows (hm : Move (.ofFiles files) v w) (hv : Reach (.ofFiles files) v)
    (hr : ∀ c ∈ w.process.calls, c.Records)
    (h : Shows (lastArgs v.process.calls) v.process.recorder) :
    Shows (lastArgs w.process.calls) w.process.recorder := by
  cases hm with
  | load _ hl =>
    obtain ⟨log, n, shared, hr⟩ := hl.changes
    simp only [World.loaded, hr]
    exact h
  | probe p es held probe => exact h
  | forget _ => exact h
  | opens he hs =>
    obtain ⟨rfl, probes, rfl⟩ := Session.start_returned hs
    have hrec := hr _ (List.mem_append_right _ List.mem_cons_self)
    show Shows (lastArgs (_ ++ [_])) _
    rw [lastArgs_append]
    exact Engine.onInit_shows (hv.linked.engines _ he) hrec h _ _ _
  | refuses he hs =>
    obtain rfl | ⟨probes, rfl⟩ := Session.start_panicked hs
    · exact h
    · have hrec := hr _ (List.mem_append_right _ List.mem_cons_self)
      show Shows (lastArgs (_ ++ [_])) _
      rw [lastArgs_append]
      exact Engine.onInit_shows (hv.linked.engines _ he) hrec h _ _ _
  | drop p es s held =>
    have hs : s.state = .active := hv.balanced.ledger.paired.active s List.mem_cons_self
    obtain ⟨o, probes, hd⟩ := Session.drop_active hs p
    simp only [hd] at hr ⊢
    have hrec := hr _ (List.mem_append_right _ List.mem_cons_self)
    rw [lastArgs_append]
    exact Engine.onFinalize_shows (hv.linked.held s List.mem_cons_self) hrec h _ _ _
  | pass _ => exact h
  | reset p es held =>
    show Shows (lastArgs (_ ++ [_])) _
    rw [lastArgs_append]
    exact reset_shows _

theorem Reach.shows (h : Reach (.ofFiles files) w) (hr : ∀ c ∈ w.process.calls, c.Records) :
    Shows (lastArgs w.process.calls) w.process.recorder := by
  induction h with
  | refl => exact blank_shows
  -- Moves take no call back, so the calls before the last move are of such engines as well.
  | tail hv hm ih => exact hm.shows hv hr (ih fun c hc => hr c (hm.calls_grow.subset hc))

end World

namespace Script

variable {ρ : Type} {files : Files} {scopes : List Session} {s : State}

/-- The record shows the arguments of the last initializer call, and of no call before it; since
    it was made blank, or if nothing has been called, it shows none. A session that is opened makes
    its arguments the last ones. Whatever is called, the table keeps its size and nothing is
    written outside of it. All this is read through a handle that an observer keeps open, so that
    the recording engine stays loaded (`Process.recorder`). -/
theorem record_is_last_call (h : Point ρ (.ofFiles files) scopes s)
    (hr : ∀ c ∈ s.process.calls, c.Records) :
    let r := s.process.recorder
    (match lastArgs s.process.calls with
      | some args =>
        r.lastArgc = args.length ∧ r.nullTerminated = true ∧
        (∀ i : Int, i < 0 ∨ (min args.length maxArgs : Nat) ≤ i →
          r.lastArg? i = none ∧ r.lastArgLength i = 0) ∧
        ∀ (i : Nat) (t : Bytes), args[i]? = some t → i < maxArgs →
          r.lastArg? i = some (excerpt t) ∧ r.lastArgLength i = (excerpt t).length
      | none =>
        r.lastArgc = -1 ∧ r.nullTerminated = false ∧
        ∀ i : Int, r.lastArg? i = none ∧ r.lastArgLength i = 0) ∧
    (∀ l args, args.length ≤ Argv.maxArgc → ∃ x q,
      Session.start (.library l) args s.process = (.returned x, q) ∧
        lastArgs q.calls = some args) ∧
    (r.rows.length = maxArgs ∧ (∀ row ∈ r.rows, row.length = rowLength) ∧
      r.lengths.length = maxArgs) ∧
    ∀ argc seen, ∀ c ∈ copies argc seen, c.1 < maxArgs ∧ c.2.length + 1 ≤ rowLength := by
  intro r
  have hs : Shows (lastArgs s.process.calls) r := h.reach.shows hr
  refine ⟨?_, fun l args hn => ?_, ⟨hs.rows, hs.row, hs.lengths⟩, fun argc seen c => copies_fit⟩
  · cases hA : lastArgs s.process.calls with
    | none =>
      rw [hA] at hs
      exact ⟨hs.argc, hs.terminated, hs.unread⟩
    | some args =>
      rw [hA] at hs
      exact ⟨hs.argc, hs.terminated, fun i hi => hs.outside hi, fun i t ht hi => hs.arg ht hi⟩
  · obtain ⟨x, q, hstart⟩ := Session.start_library l hn s.process
    obtain ⟨-, probes, rfl⟩ := Session.start_returned hstart
    refine ⟨x, _, hstart, ?_⟩
    show lastArgs (_ ++ [_]) = _
    rw [lastArgs_append]
    rfl

/-- Three arguments, then a single one that is too long for its row. -/
def overlay : List (Step Unit) :=
  [.load .plain "e" ⟨[0x2f, 0x6d], ⟨"ket_begin", "mock_ket_last_arg"⟩⟩,
   .start "a" "e" [[0x61, 0, 0x62], [], [0x63]],
   .start "b" "e" [List.replicate 300 0x78]]

theorem overlay_record_is_last_call :
    let s := (run (.ofFiles ⟨.directory [([0x6d], .image "m")], []⟩) overlay .fresh).2
    (∀ c ∈ s.process.calls, c.Records) ∧
    lastArgs s.process.calls = some [List.replicate 300 0x78] ∧
    s.process.recorder.lastArg? 0 = some (List.replicate 255 0x78) ∧
    s.process.recorder.lastArg? 1 = none ∧
    s.process.recorder.rows.length = maxArgs :=
  ⟨by decide +kernel, by decide +kernel, by decide +kernel, by decide +kernel,
    (record_is_last_call (Point.fresh.run overlay) (by decide +kernel)).2.2.1.1⟩

end Script

end ScopedEngine
