/-
  ScopedEngine.Proofs.Aliasing — an argument vector in the hands of a program.

  Slots are exchanged and set to null, buffers stay where they are. `Sound` is what every action
  keeps: no two slots point to one buffer, and every buffer keeps its length and the NUL at its
  end. So a write reaches one buffer, which one slot points to. `writes` traces the writes of a
  run to the buffers, through the slots as they are at each write.

  Main result, for every list of arguments and every list of actions:
  - `sound_in_order`: the vector is sound, an argument read in its first order is the original
    one under the writes that reached its buffer, exchanges and nulls are not seen there, and a
    write through one slot is not seen through any other.
-/

import Mathlib.Logic.Equiv.Basic
import ScopedEngine.Argv

namespace ScopedEngine.Argv

/-! ## C strings -/

theorem cString_append_nul (t : Bytes) : cString (t ++ [0]) = cString t := by
  unfold cString
  induction t with
  | nil => rfl
  | cons c t ih => simp only [List.cons_append, List.takeWhile_cons, ih]

/-- A read stops at the first NUL. -/
theorem cString_append_cons {s : Bytes} (hs : (0 : UInt8) ∉ s) (rest : Bytes) :
    cString (s ++ 0 :: rest) = s := by
  have hall : ∀ c ∈ s, decide (c ≠ 0) = true := by
    intro c hc
    have hne : c ≠ 0 := fun h => hs (h ▸ hc)
    simpa using hne
  rw [cString, List.takeWhile_append_of_pos hall]
  simp

theorem cString_length_le (t : Bytes) : (cString t).length ≤ t.length :=
  (List.takeWhile_prefix _).length_le

/-- A read stops before the NUL that ends a buffer. -/
theorem cString_stops {b : Bytes} (h : b.getLast? = some 0) : (cString b).length < b.length := by
  obtain ⟨t, rfl⟩ := List.getLast?_eq_some_iff.mp h
  rw [cString_append_nul, List.length_append]
  have := cString_length_le t
  simp only [List.length_singleton]
  omega

/-- A write before the NUL that ends a buffer leaves it there. -/
theorem set_before_nul {b : Bytes} (h : b.getLast? = some 0) {offset : Nat}
    (ho : offset + 1 < b.length) (byte : UInt8) :
    b.set offset byte = b.dropLast.set offset byte ++ [0] := by
  obtain ⟨t, rfl⟩ := List.getLast?_eq_some_iff.mp h
  simp only [List.length_append, List.length_singleton] at ho
  rw [List.dropLast_concat, List.set_append_left _ _ (by omega)]

/-! ## The invariant -/

/-- What holds of the vector of `args` whatever has been done to it. -/
structure Sound (args : List Bytes) (v : Argv) : Prop where
  argc : v.argc = args.length
  slots : v.slots.length = args.length + 1
  sizes : v.buffers.map List.length = args.map fun t => t.length + 1
  ends : ∀ b ∈ v.buffers, b.getLast? = some 0
  within : ∀ {i k : Nat}, v.slots[i]? = some (some k) → k < args.length
  apart : ∀ {i j k : Nat}, v.slots[i]? = some (some k) → v.slots[j]? = some (some k) → i = j

/-- What may be done to the vector of `args`: exchange any two of its slots, set any one to null,
    and write over the bytes of an argument through a slot that is not null. -/
def Allowed (args : List Bytes) (v : Argv) : Action → Prop
  | .swap i j => i ≤ args.length ∧ j ≤ args.length
  | .null i => i ≤ args.length
  | .write i offset _ =>
    ∃ k t, v.slots[i]? = some (some k) ∧ args[k]? = some t ∧ offset < t.length

/-- All that an action can do. -/
theorem step?_cases {v w : Argv} {a : Action} (h : v.step? a = some w) :
    (∃ i j s t, a = .swap i j ∧ v.slots[i]? = some s ∧ v.slots[j]? = some t ∧
      w = { v with slots := (v.slots.set i t).set j s }) ∨
    (∃ i, a = .null i ∧ w = { v with slots := v.slots.set i none }) ∨
    ∃ i offset byte k b, a = .write i offset byte ∧ v.slots[i]? = some (some k) ∧
      v.buffers[k]? = some b ∧ offset + 1 < b.length ∧
      w = { v with buffers := v.buffers.set k (b.set offset byte) } := by
  cases a with
  | swap i j =>
    simp only [step?] at h
    split at h
    · next s t hs ht => exact .inl ⟨i, j, s, t, rfl, hs, ht, (Option.some.inj h).symm⟩
    · cases h
  | null i =>
    simp only [step?] at h
    split at h
    · exact .inr (.inl ⟨i, rfl, (Option.some.inj h).symm⟩)
    · cases h
  | write i offset byte =>
    simp only [step?] at h
    split at h
    · next k hk =>
      split at h
      · next b hb =>
        split at h
        · next ho =>
          exact .inr (.inr ⟨i, offset, byte, k, b, rfl, hk, hb, ho, (Option.some.inj h).symm⟩)
        · cases h
      · cases h
    · cases h

/-- At first the slots point to the buffers in order. -/
theorem slots_ofList {args : List Bytes} {i k : Nat} :
    (ofList args).slots[i]? = some (some k) ↔ i = k ∧ k < args.length := by
  simp only [ofList, List.getElem?_append, List.length_map, List.length_range]
  split
  · next hi =>
    simp only [List.getElem?_map, List.getElem?_range hi, Option.map_some, Option.some.injEq]
    omega
  · next hi =>
    have hnull : ([none] : List (Option Nat))[i - args.length]? ≠ some (some k) := by
      rcases hd : i - args.length with _ | n
      · simp
      · simp
    simp only [hnull, false_iff]
    omega

theorem sound_ofList (args : List Bytes) : Sound args (ofList args) := by
  constructor
  · rfl
  · simp [ofList]
  · simp [ofList, Function.comp_def]
  · intro b hb
    obtain ⟨t, -, rfl⟩ := List.mem_map.mp hb
    exact List.getLast?_concat
  · intro i k h
    exact (slots_ofList.mp h).2
  · intro i j k hi hj
    rw [(slots_ofList.mp hi).1, (slots_ofList.mp hj).1]

namespace Sound

variable {args : List Bytes} {v w : Argv} {a : Action}

theorem length (h : Sound args v) : v.buffers.length = args.length := by
  simpa using congrArg List.length h.sizes

/-- The buffer of an argument is one byte longer. -/
theorem size (h : Sound args v) {k : Nat} {b t : Bytes} (hb : v.buffers[k]? = some b)
    (ht : args[k]? = some t) : b.length = t.length + 1 := by
  have := congrArg (·[k]?) h.sizes
  simpa [hb, ht] using this

/-- A slot that is not null points to a buffer. -/
theorem pointee (h : Sound args v) {i k : Nat} (hk : v.slots[i]? = some (some k)) :
    ∃ b t, v.buffers[k]? = some b ∧ args[k]? = some t := by
  have hlt := h.within hk
  exact ⟨_, _, List.getElem?_eq_getElem (by rw [h.length]; exact hlt), List.getElem?_eq_getElem hlt⟩

theorem ends_at (h : Sound args v) {k : Nat} {b : Bytes} (hb : v.buffers[k]? = some b) :
    b.getLast? = some 0 :=
  h.ends b (List.mem_of_getElem? hb)

/-- The bytes of a buffer without its NUL, and the NUL. -/
theorem getWithNul? (h : Sound args v) (k : Nat) :
    v.getWithNul? k = (v.get? k).map (· ++ [0]) := by
  simp only [Argv.getWithNul?, get?]
  cases hb : v.buffers[k]? with
  | none => rfl
  | some b =>
    obtain ⟨t, rfl⟩ := List.getLast?_eq_some_iff.mp (h.ends_at hb)
    simp

/-- What can be done is what may be done. -/
theorem isSome_step? (h : Sound args v) (a : Action) : (v.step? a).isSome ↔ Allowed args v a := by
  cases a with
  | swap i j =>
    have hi : i ≤ args.length ↔ i < v.slots.length := by rw [h.slots]; omega
    have hj : j ≤ args.length ↔ j < v.slots.length := by rw [h.slots]; omega
    simp only [step?, Allowed, hi, hj]
    by_cases hi : i < v.slots.length
    · by_cases hj : j < v.slots.length
      · simp [hi, hj]
      · simp [hi, hj]
    · simp [hi]
  | null i =>
    have hi : i ≤ args.length ↔ i < v.slots.length := by rw [h.slots]; omega
    simp only [step?, Allowed, hi]
    split
    · simp_all
    · simp_all
  | write i offset byte =>
    simp only [step?, Allowed]
    split
    · next k hk =>
      obtain ⟨b, t, hb, ht⟩ := h.pointee hk
      have hsize := h.size hb ht
      have ho : offset + 1 < b.length ↔ offset < t.length := by omega
      simp only [hb, ho]
      split
      · next ho =>
        simp only [Option.isSome_some, true_iff]
        exact ⟨k, t, hk, ht, ho⟩
      · next ho =>
        simp only [Option.isSome_none, Bool.false_eq_true, false_iff]
        rintro ⟨k', t', hk', ht', ho'⟩
        rw [hk] at hk'
        cases hk'
        rw [ht] at ht'
        cases ht'
        exact ho ho'
    · next hne =>
      simp only [Option.isSome_none, Bool.false_eq_true, false_iff]
      rintro ⟨k, t, hk, -, -⟩
      exact hne k hk

end Sound

/-! ## One action -/

/-- An exchange only changes where a slot is found. -/
theorem exchanged {slots : List (Option Nat)} {i j : Nat} {s t : Option Nat}
    (hs : slots[i]? = some s) (ht : slots[j]? = some t) (m : Nat) :
    ((slots.set i t).set j s)[m]? = slots[Equiv.swap i j m]? := by
  have hi := (List.getElem?_eq_some_iff.mp hs).1
  have hj := (List.getElem?_eq_some_iff.mp ht).1
  rw [Equiv.swap_apply_def]
  by_cases hmj : m = j
  · subst hmj
    rw [List.getElem?_set_self (by rw [List.length_set]; exact hj)]
    split
    · next hmi => rw [← hs, hmi]
    · simp [hs]
  · rw [List.getElem?_set_ne (Ne.symm hmj)]
    by_cases hmi : m = i
    · subst hmi
      simp [hi, ht]
    · simp [List.getElem?_set_ne (Ne.symm hmi), hmi, hmj]

/-- A null slot does not come to point to anything. -/
theorem nulled {slots : List (Option Nat)} {i m k : Nat}
    (h : (slots.set i none)[m]? = some (some k)) : slots[m]? = some (some k) := by
  rw [List.getElem?_set] at h
  split at h
  · split at h <;> cases h
  · exact h

theorem Sound.step? {args : List Bytes} {v w : Argv} {a : Action} (h : Sound args v)
    (hw : v.step? a = some w) : Sound args w := by
  obtain ⟨i, j, s, t, -, hs, ht, rfl⟩ | ⟨i, -, rfl⟩ | ⟨i, offset, byte, k, b, -, -, hb, ho, rfl⟩ :=
    step?_cases hw
  · refine ⟨h.argc, by simpa using h.slots, h.sizes, h.ends, fun hk => ?_, fun hm hn => ?_⟩
    · rw [exchanged hs ht] at hk
      exact h.within hk
    · rw [exchanged hs ht] at hm hn
      exact (Equiv.swap i j).injective (h.apart hm hn)
  · exact ⟨h.argc, by simpa using h.slots, h.sizes, h.ends, fun hk => h.within (nulled hk),
      fun hm hn => h.apart (nulled hm) (nulled hn)⟩
  · refine ⟨h.argc, h.slots, ?_, fun c hc => ?_, h.within, h.apart⟩
    · have hself : v.buffers.set k b = v.buffers := by
        obtain ⟨hk, rfl⟩ := List.getElem?_eq_some_iff.mp hb
        exact List.set_getElem_self hk
      rw [← h.sizes, List.map_set, List.length_set, ← List.map_set, hself]
    · rcases List.mem_or_eq_of_mem_set hc with hc | rfl
      · exact h.ends c hc
      · rw [set_before_nul (h.ends_at hb) ho]
        exact List.getLast?_concat

theorem Sound.step {args : List Bytes} {v : Argv} (h : Sound args v) (a : Action) :
    Sound args (v.step a) := by
  unfold Argv.step
  cases hw : v.step? a with
  | none => exact h
  | some w => exact h.step? hw

/-- The invariant of a run. -/
theorem sound_actAll {args : List Bytes} {v : Argv} (h : Sound args v) (actions : List Action) :
    Sound args (v.actAll actions) := by
  induction actions generalizing v with
  | nil => exact h
  | cons a rest ih => exact ih (h.step a)

/-! ## Writes -/

/-- A byte that has been written into a buffer. -/
structure Write where
  buffer : Nat
  offset : Nat
  byte : UInt8
  deriving DecidableEq, Repr

/-- What an action writes, if it can be done, into the buffer that its slot points to then. -/
def write? (v : Argv) (a : Action) : Option Write :=
  match v.step? a, a with
  | some _, .write i offset byte => (v.slots[i]?.join).map fun k => ⟨k, offset, byte⟩
  | _, _ => none

/-- What actions write, in order. -/
def writes : Argv → List Action → List Write
  | _, [] => []
  | v, a :: rest => (v.write? a).toList ++ (v.step a).writes rest

/-- The text of buffer `k` after all writes that go there. -/
def patched (k : Nat) (ws : List Write) (t : Bytes) : Bytes :=
  (ws.filter (·.buffer = k)).foldl (fun t w => t.set w.offset w.byte) t

@[simp] theorem patched_nil (k : Nat) : patched k [] = id := rfl

/-- A write elsewhere. -/
theorem patched_other {k : Nat} {w : Write} (h : w.buffer ≠ k) : patched k [w] = id := by
  funext t
  simp [patched, h]

theorem patched_append (k : Nat) (xs ys : List Write) :
    patched k (xs ++ ys) = patched k ys ∘ patched k xs := by
  funext t
  simp [patched]

/-- What stays the same for the owner. -/
def SameReads (v w : Argv) : Prop :=
  w.toList = v.toList ∧ w.outline = v.outline ∧
    ∀ k, w.get? k = v.get? k ∧ w.getWithNul? k = v.getWithNul? k

theorem sameReads_of_buffers {v w : Argv} (h : w.buffers = v.buffers) : SameReads v w := by
  have htext : w.toList = v.toList := by rw [toList, toList, h]
  refine ⟨htext, by rw [outline, outline, htext], fun k => ⟨?_, ?_⟩⟩
  · rw [get?_eq, get?_eq, htext]
  · rw [getWithNul?, getWithNul?, h]

theorem sameReads_swap (v : Argv) (i j : Nat) : SameReads v (v.step (.swap i j)) := by
  apply sameReads_of_buffers
  simp only [step, step?]
  split <;> rfl

theorem sameReads_null (v : Argv) (i : Nat) : SameReads v (v.step (.null i)) := by
  apply sameReads_of_buffers
  simp only [step, step?]
  split <;> rfl

theorem step_get? {args : List Bytes} {v : Argv} (h : Sound args v) (a : Action) (k : Nat) :
    (v.step a).get? k = (v.get? k).map (patched k (v.write? a).toList) := by
  cases hw : v.step? a with
  | none => simp [step, write?, hw]
  | some w =>
    obtain ⟨i, j, s, t, rfl, -, -, rfl⟩ | ⟨i, rfl, rfl⟩ |
      ⟨i, offset, byte, l, b, rfl, hl, hb, ho, rfl⟩ := step?_cases hw
    · simp [step, write?, hw, get?]
    · simp [step, write?, hw, get?]
    · simp only [step, hw, Option.getD_some, write?, hl, Option.join_some, Option.map_some,
        Option.toList_some, get?]
      by_cases hkl : l = k
      · subst hkl
        have hlt := (List.getElem?_eq_some_iff.mp hb).1
        simp [hb, List.getElem?_set_self hlt, set_before_nul (h.ends_at hb) ho, patched]
      · simp [List.getElem?_set_ne hkl, patched_other (w := ⟨l, offset, byte⟩) hkl]

/-- An argument of a run is the one it began with, under the writes that reached its buffer. -/
theorem actAll_get? {args : List Bytes} {v : Argv} (h : Sound args v) (actions : List Action)
    (k : Nat) :
    (v.actAll actions).get? k = (v.get? k).map (patched k (v.writes actions)) := by
  induction actions generalizing v with
  | nil => simp [actAll, writes]
  | cons a rest ih =>
    -- The rest is traced from the vector after `a`, whose slots may be others.
    have hrest : ((v.step a).actAll rest).get? k = _ := ih (h.step a)
    rw [step_get? h a k, Option.map_map] at hrest
    rw [actAll, List.foldl_cons, ← actAll, hrest, writes, patched_append]

/-! ## What a program sees -/

/-- A program reads an argument up to its first NUL, inside its buffer. -/
theorem Sound.seen {args : List Bytes} {v : Argv} (h : Sound args v) {i k : Nat}
    (hk : v.slots[i]? = some (some k)) :
    ∃ t, v.get? k = some t ∧ v.getWithNul? k = some (t ++ [0]) ∧
      v.seen[i]? = some (some (cString t)) ∧ (cString (t ++ [0])).length < (t ++ [0]).length := by
  obtain ⟨b, -, hb, -⟩ := h.pointee hk
  obtain ⟨t, rfl⟩ := List.getLast?_eq_some_iff.mp (h.ends_at hb)
  refine ⟨t, by simp [get?, hb], hb, ?_, cString_stops (h.ends_at hb)⟩
  simp [Argv.seen, hk, seenThrough, hb, cString_append_nul]

theorem seen_ofList {args : List Bytes} {i : Nat} {t : Bytes} (h : args[i]? = some t) :
    (ofList args).seen[i]? = some (some (cString t)) := by
  have hslot := slots_ofList.mpr ⟨rfl, (List.getElem?_eq_some_iff.mp h).1⟩
  obtain ⟨t', ht', -, hseen, -⟩ := (sound_ofList args).seen hslot
  rw [get?_eq, toList_ofList, h, Option.some.injEq] at ht'
  rw [hseen, ht']

theorem seen_ofList_end (args : List Bytes) : (ofList args).seen[args.length]? = some none := by
  simp [ofList, Argv.seen, seenThrough]

/-- A write through one slot is seen through that one only. -/
theorem Sound.write_seen {args : List Bytes} {v w : Argv} (h : Sound args v) {i offset : Nat}
    {byte : UInt8} (hw : v.step? (.write i offset byte) = some w) :
    (∃ k t, v.slots[i]? = some (some k) ∧ v.get? k = some t ∧
      w.seen[i]? = some (some (cString (t.set offset byte)))) ∧
    ∀ j, j ≠ i → w.seen[j]? = v.seen[j]? := by
  obtain ⟨_, _, _, _, ha, -⟩ | ⟨_, ha, -⟩ | ⟨_, _, _, k, b, ha, hk, hb, ho, rfl⟩ := step?_cases hw
  · cases ha
  · cases ha
  · cases ha
    constructor
    · have hlt := (List.getElem?_eq_some_iff.mp hb).1
      refine ⟨k, b.dropLast, hk, by simp [get?, hb], ?_⟩
      simp [Argv.seen, hk, seenThrough, List.getElem?_set_self hlt,
        set_before_nul (h.ends_at hb) ho, cString_append_nul]
    · intro j hj
      have hsame : ∀ s, v.slots[j]? = some s →
          seenThrough { v with buffers := v.buffers.set k (b.set offset byte) } s =
            v.seenThrough s := by
        rintro (_ | l) hs
        · rfl
        · -- The one place where `apart` is needed: no second slot points to the buffer written.
          have hne : k ≠ l := by
            rintro rfl
            exact hj (h.apart hs hk)
          simp [seenThrough, List.getElem?_set_ne hne]
      simp only [Argv.seen, List.getElem?_map]
      cases hs : v.slots[j]? with
      | none => rfl
      | some s => rw [Option.map_some, Option.map_some, hsame s hs]

/-- Whatever a program does to its vector, the vector stays sound, with the count, the slots and
    the lengths that it began with; a caller who writes through the first slots only does nothing
    else than a program can do. The owner reads every argument under the writes that reached
    its buffer, in order, and never sees an exchange or a null. A slot that is not null is read
    inside its buffer, and a write through it is seen through no other slot. -/
theorem sound_in_order (args : List Bytes) (actions : List Action) :
    let v := (ofList args).actAll actions
    Sound args v ∧ v.length = args.length ∧ v.isEmpty = args.isEmpty ∧
    (∀ a, (v.step? a).isSome ↔ Allowed args v a) ∧
    (∀ a w, v.act? a = some w → v.step? a = some w) ∧
    (∀ k, v.get? k = (args[k]?).map (patched k ((ofList args).writes actions)) ∧
      v.getWithNul? k = (v.get? k).map (· ++ [0]) ∧ v.toList[k]? = v.get? k) ∧
    (∀ i k : Nat, v.slots[i]? = some (some k) → ∃ t, v.get? k = some t ∧
      v.getWithNul? k = some (t ++ [0]) ∧ v.seen[i]? = some (some (cString t)) ∧
      (cString (t ++ [0])).length < (t ++ [0]).length) ∧
    (∀ i j, SameReads v (v.step (.swap i j))) ∧ (∀ i, SameReads v (v.step (.null i))) ∧
    ∀ i offset byte w, v.step? (.write i offset byte) = some w →
      (∃ k t, v.slots[i]? = some (some k) ∧ v.get? k = some t ∧
        w.seen[i]? = some (some (cString (t.set offset byte)))) ∧
      ∀ j : Nat, j ≠ i → w.seen[j]? = v.seen[j]? := by
  intro v
  have h : Sound args v := sound_actAll (sound_ofList args) actions
  have hempty : v.isEmpty = args.isEmpty := by
    rw [isEmpty, Bool.eq_iff_iff, List.isEmpty_iff_length_eq_zero, List.isEmpty_iff_length_eq_zero,
      h.length]
  refine ⟨h, h.length, hempty, h.isSome_step?, fun a w hw => (act?_eq_some.mp hw).1,
    fun k => ⟨?_, h.getWithNul? k, (get?_eq v k).symm⟩, fun i k hk => h.seen hk,
    sameReads_swap v, sameReads_null v, fun i offset byte w hw => h.write_seen hw⟩
  have hk := actAll_get? (sound_ofList args) actions k
  rwa [get?_eq (ofList args), toList_ofList] at hk

/-- A write through the slot behind the last argument, after an exchange has put one there. -/
example :
    let v := (ofList [[0x61], [0x62, 0x63]]).actAll [.swap 0 2, .write 2 0 0x78, .null 1]
    v.seen = [none, none, some [0x78]] ∧ v.toList = [[0x78], [0x62, 0x63]] := by decide

end ScopedEngine.Argv
