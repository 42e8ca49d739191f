/-
  ScopedEngine.Proofs.Marshaling — what a list of arguments becomes, and what can be told from it.

  A buffer is read in two ways: by its length, less the one byte at its end (`get?`, `toList`), and
  up to its first NUL (`seen`). The first reading gives the list back (`Carries.toList`). The second
  gives of each argument what stands before its first NUL (`BeforeNul`), so a program cannot tell
  lists apart that differ only behind a NUL, and can tell apart all others.

  Main result, for every list that a C `int` can count:
  - `marshaled_faithfully`: the vector carries the list, the buffers determine it, and two lists
    are seen alike exactly if their arguments are the same up to the first NUL of each.
-/

import Mathlib.Data.List.Forall2
import ScopedEngine.Proofs.Aliasing

namespace ScopedEngine.Argv

variable {t u s : Bytes} {args args' : List Bytes} {v v' : Argv}

/-! ## Up to the first NUL -/

/-- What stands before the first NUL of a byte string: all of it if there is none. -/
def BeforeNul (t s : Bytes) : Prop := (0 : UInt8) ∉ s ∧ (t = s ∨ ∃ rest, t = s ++ 0 :: rest)

theorem cString_of_nul_not_mem (ht : (0 : UInt8) ∉ t) : cString t = t := by
  rw [← cString_append_nul, cString_append_cons ht]

theorem beforeNul_cString (t : Bytes) : BeforeNul t (cString t) := by
  induction t with
  | nil => exact ⟨List.not_mem_nil, .inl rfl⟩
  | cons c t ih =>
    by_cases hc : c = 0
    · have hnil : cString (c :: t) = [] := by simp [cString, hc]
      rw [hnil, hc]
      exact ⟨List.not_mem_nil, .inr ⟨t, rfl⟩⟩
    · have hcons : cString (c :: t) = c :: cString t := by simp [cString, hc]
      rw [hcons]
      refine ⟨?_, ?_⟩
      · simpa [Ne.symm hc] using ih.1
      · rcases ih.2 with ht | ⟨rest, ht⟩
        · exact .inl (congrArg (c :: ·) ht)
        · exact .inr ⟨rest, congrArg (c :: ·) ht⟩

theorem beforeNul_iff : BeforeNul t s ↔ cString t = s := by
  constructor
  · intro h
    obtain ⟨hs, rfl | ⟨rest, rfl⟩⟩ := h
    · exact cString_of_nul_not_mem hs
    · exact cString_append_cons hs rest
  · intro h
    rw [← h]
    exact beforeNul_cString t

/-- The same bytes stand before the first NUL of both. -/
def SameHead (t u : Bytes) : Prop := ∃ s, BeforeNul t s ∧ BeforeNul u s

theorem sameHead_iff : SameHead t u ↔ cString t = cString u := by
  simp [SameHead, beforeNul_iff, eq_comm]

theorem forall₂_sameHead :
    List.Forall₂ SameHead args args' ↔ args.map cString = args'.map cString := by
  have hrel : SameHead = fun t u => cString t = cString u := by
    funext t u
    exact propext sameHead_iff
  have heq : args.map cString = args'.map cString ↔
      List.Forall₂ (· = ·) (args.map cString) (args'.map cString) := by
    rw [List.forall₂_eq_eq_eq]
  rw [hrel, heq, List.forall₂_map_left_iff, List.forall₂_map_right_iff]

/-! ## A fresh vector -/

theorem marshal_eq_ok : marshal args = .ok v ↔ args.length < 0x80000000 ∧ v = ofList args := by
  unfold marshal maxArgc
  by_cases h : args.length ≤ 0x7fffffff
  · rw [if_pos h, Except.ok.injEq]
    exact ⟨fun hv => ⟨by omega, hv.symm⟩, fun hv => hv.2.symm⟩
  · rw [if_neg h]
    constructor
    · intro hv
      cases hv
    · intro hv
      omega

/-- A vector as it should be made of a list: one slot for each argument and a null one behind them,
    every argument under its index with one NUL more, and each slot a C string that ends where its
    argument first has a NUL, inside its buffer. -/
structure Carries (args : List Bytes) (v : Argv) : Prop where
  argc : v.argc = args.length
  length : v.length = args.length
  slots : v.slots.length = v.argc + 1
  null : ∀ i : Nat, v.slots[i]? = some none ↔ i = v.argc
  toList : v.toList = args
  get : ∀ i : Nat, v.get? i = args[i]?
  getWithNul : ∀ i : Nat, v.getWithNul? i = (args[i]?).map (· ++ [0])
  outside : ∀ i, v.argc ≤ i → v.get? i = none ∧ v.getWithNul? i = none
  read : ∀ (i : Nat) t, args[i]? = some t →
    ∃ s, v.seen[i]? = some (some s) ∧ BeforeNul t s ∧ s.length < (t ++ [0]).length

theorem null_ofList {i : Nat} : (ofList args).slots[i]? = some none ↔ i = args.length := by
  constructor
  · intro h
    by_cases hi : i < args.length
    · rw [slots_ofList.mpr ⟨rfl, hi⟩] at h
      cases h
    · have hlt := (List.getElem?_eq_some_iff.mp h).1
      rw [(sound_ofList args).slots] at hlt
      omega
  · intro h
    rw [h]
    simp [ofList]

theorem carries_ofList (args : List Bytes) : Carries args (ofList args) := by
  have hsound := sound_ofList args
  have hget : ∀ i, (ofList args).get? i = args[i]? := by
    intro i
    rw [get?_eq, toList_ofList]
  have hwith : ∀ i, (ofList args).getWithNul? i = (args[i]?).map (· ++ [0]) := by
    intro i
    rw [hsound.getWithNul?, hget]
  refine ⟨hsound.argc, hsound.length, hsound.slots, fun i => null_ofList, toList_ofList args, hget,
    hwith, ?_, ?_⟩
  · intro i hi
    have hnone : args[i]? = none := List.getElem?_eq_none hi
    rw [hget, hwith, hnone]
    exact ⟨rfl, rfl⟩
  · intro i t ht
    have hlen := cString_stops (b := t ++ [0]) List.getLast?_concat
    rw [cString_append_nul] at hlen
    exact ⟨cString t, seen_ofList ht, beforeNul_cString t, hlen⟩

/-! ## What a program can tell -/

/-- A program is told the same count and sees the same through every slot. -/
def SeenAlike (v v' : Argv) : Prop := v.argc = v'.argc ∧ v.seen = v'.seen

theorem seen_ofList_eq (args : List Bytes) :
    (ofList args).seen = (args.map cString).map some ++ [none] := by
  apply List.ext_getElem?
  intro i
  by_cases hi : i < args.length
  · rw [seen_ofList (List.getElem?_eq_getElem hi), List.getElem?_append_left (by simpa using hi)]
    simp [hi]
  · by_cases he : i = args.length
    · rw [he, seen_ofList_end]
      simp
    · rw [List.getElem?_eq_none (by simp [seen, ofList]; omega),
        List.getElem?_eq_none (by simp; omega)]

theorem seenAlike_ofList :
    SeenAlike (ofList args) (ofList args') ↔ args.map cString = args'.map cString := by
  unfold SeenAlike
  rw [seen_ofList_eq, seen_ofList_eq, List.append_left_inj]
  constructor
  · intro h
    exact List.map_injective_iff.mpr (Option.some_injective _) h.2
  · intro h
    refine ⟨?_, by rw [h]⟩
    simpa [ofList] using congrArg List.length h

theorem map_cString (h : ∀ t ∈ args, (0 : UInt8) ∉ t) : args.map cString = args := by
  have hsame : ∀ t ∈ args, cString t = id t := fun t ht => cString_of_nul_not_mem (h t ht)
  rw [List.map_congr_left hsame, List.map_id]

/-- Every list that can be counted is marshaled, and the vector carries it: by their lengths the
    buffers are the arguments, and through the slots a program reads each up to its first NUL. So
    the buffers determine the list. To a program two lists are alike exactly if they are of one
    length and their arguments, one by one, are the same before the first NUL, and without NULs
    only if they are the same list. -/
theorem marshaled_faithfully :
    (∀ args : List Bytes, args.length < 0x80000000 → ∃ v, marshal args = .ok v ∧ Carries args v) ∧
    ∀ args args' v v', marshal args = .ok v → marshal args' = .ok v' →
      (v.buffers = v'.buffers → args = args') ∧
      (SeenAlike v v' ↔ List.Forall₂ SameHead args args') ∧
      ((∀ t ∈ args, (0 : UInt8) ∉ t) → (∀ t ∈ args', (0 : UInt8) ∉ t) → SeenAlike v v' →
        args = args') := by
  constructor
  · intro args h
    exact ⟨ofList args, marshal_eq_ok.mpr ⟨h, rfl⟩, carries_ofList args⟩
  · intro args args' v v' hv hv'
    obtain ⟨-, rfl⟩ := marshal_eq_ok.mp hv
    obtain ⟨-, rfl⟩ := marshal_eq_ok.mp hv'
    refine ⟨?_, ?_, ?_⟩
    · intro h
      calc args = (ofList args).toList := (toList_ofList args).symm
        _ = (ofList args').toList := by rw [toList, toList, h]
        _ = args' := toList_ofList args'
    · rw [seenAlike_ofList, forall₂_sameHead]
    · intro hn hn' h
      calc args = args.map cString := (map_cString hn).symm
        _ = args'.map cString := seenAlike_ofList.mp h
        _ = args' := map_cString hn'

/-- Behind a NUL a program sees nothing, and an argument that begins with one is seen as empty. -/
theorem hidden_marshaled_faithfully :
    let args : List Bytes := [[0x61, 0, 0x62], [0]]
    let args' : List Bytes := [[0x61], []]
    (∃ v, marshal args = .ok v ∧ v.toList = args ∧ v.getWithNul? 1 = some [0, 0]) ∧
    SeenAlike (ofList args) (ofList args') ∧ ¬ SeenAlike (ofList args') (ofList [[0x61]]) := by
  intro args args'
  obtain ⟨hcarries, htell⟩ := marshaled_faithfully
  obtain ⟨v, hv, hc⟩ := hcarries args (by decide)
  have halike := htell args args' (ofList args) (ofList args') rfl rfl
  have hother := htell args' [[0x61]] (ofList args') (ofList [[0x61]]) rfl rfl
  refine ⟨⟨v, hv, hc.toList, hc.getWithNul 1⟩, halike.2.1.mpr ?_, ?_⟩
  · have hfirst : SameHead [0x61, 0, 0x62] [0x61] := sameHead_iff.mpr rfl
    have hsecond : SameHead [0] [] := sameHead_iff.mpr rfl
    exact .cons hfirst (.cons hsecond .nil)
  · intro h
    have hsame := hother.2.2 (by decide) (by decide) h
    exact absurd hsame (by decide)

end ScopedEngine.Argv
