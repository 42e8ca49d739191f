/-
  ScopedEngine.Proofs.Overlays — lookups laid over a configuration, one over the other.

  All that a lookup does to a configuration is its `Overlay`: for each of the three fields a text,
  or nothing (`withOverrides_eq`). Overlays lie one over the other field by field (`lay_or`), so
  two lookups do as one does that answers for both (`Merged`). The two names of the library feed one
  field: the later lookup has both or neither.

  Main results:
  - `overlays_compose`: two lookups as one, the same one twice, one without texts, and two that do
    not touch.
  - `library_of_process`: the library under the variables of a process, whose values are bytes. A
    value that is not text does not count, even of the variable that wins
    (`first_variable_passed_over`).
-/

import ScopedEngine.Proofs.Building

namespace ScopedEngine.Config

/-! ## Overlays -/

/-- The texts that are laid over the fields of a configuration. -/
structure Overlay where
  library : Option String
  init : Option String
  finalize : Option String
  deriving DecidableEq, Repr

namespace Overlay

variable {o p : Overlay}

def lay (o : Overlay) (c : Config) : Config where
  library := (o.library.map Utf8.ofString).getD c.library
  symbols := {
    init := o.init.getD c.symbols.init
    finalize := o.finalize.getD c.symbols.finalize }

/-- `o` lies over `p`. -/
def or (o p : Overlay) : Overlay where
  library := o.library.or p.library
  init := o.init.or p.init
  finalize := o.finalize.or p.finalize

theorem lay_or (o p : Overlay) (c : Config) : (o.or p).lay c = o.lay (p.lay c) := by
  simp [lay, or, Option.map_or, Option.getD_or]

@[simp] theorem or_self (o : Overlay) : o.or o = o := by simp [or]

/-- No field has a text in both. -/
structure Apart (o p : Overlay) : Prop where
  library : o.library = none ∨ p.library = none
  init : o.init = none ∨ p.init = none
  finalize : o.finalize = none ∨ p.finalize = none

theorem or_comm_of_none {x y : Option String} (h : x = none ∨ y = none) : x.or y = y.or x := by
  rcases h with hx | hy
  · rw [hx, Option.none_or, Option.or_none]
  · rw [hy, Option.or_none, Option.none_or]

theorem Apart.or_comm (h : Apart o p) : o.or p = p.or o := by
  unfold or
  rw [or_comm_of_none h.library, or_comm_of_none h.init, or_comm_of_none h.finalize]

end Overlay

namespace Lookup

variable {f g h look : Lookup} {name : String}

def overlay (look : Lookup) : Overlay :=
  ⟨look.library?, look.get initVariable, look.get finalizeVariable⟩

/-- The lookup gives a text under the name, and not the empty one. -/
def Sets (look : Lookup) (name : String) : Prop := ∃ v, look name = some v ∧ v ≠ ""

/-- The lookup names a library, by one of its two variables. -/
def SetsLibrary (look : Lookup) : Prop := look.Sets libraryVariable ∨ look.Sets libraryAlias

theorem sets_iff : look.Sets name ↔ ∃ v, look.get name = some v := by
  simp only [Sets, Lookup.get_eq_some]

theorem get_eq_none : look.get name = none ↔ ¬ look.Sets name := by
  rw [sets_iff, ← Option.ne_none_iff_exists', not_not]

theorem library?_eq_none : look.library? = none ↔ ¬ look.SetsLibrary := by
  rw [library?, Option.or_eq_none_iff, get_eq_none, get_eq_none, SetsLibrary, not_or]

end Lookup

theorem withOverrides_eq (c : Config) (look : Lookup) :
    c.withOverrides look = look.overlay.lay c := by
  unfold withOverrides Overlay.lay Lookup.overlay
  cases look.library? with
  | none => rfl
  | some path => rfl

/-! ## Two lookups as one -/

/-- `h` answers as `g` does where `g` sets something, and as `f` elsewhere; under both names of the
    library as the same one of the two. -/
structure Merged (f g h : Lookup) : Prop where
  symbol : ∀ name ∈ [initVariable, finalizeVariable],
    (g.Sets name → h name = g name) ∧ (¬ g.Sets name → h name = f name)
  library : ∀ name ∈ [libraryVariable, libraryAlias],
    (g.SetsLibrary → h name = g name) ∧ (¬ g.SetsLibrary → h name = f name)

/-- The answers of `g` over those of `f`. -/
def Lookup.under (f g : Lookup) : Lookup := fun name =>
  if name = libraryVariable ∨ name = libraryAlias then
    if g.library?.isSome then g name else f name
  else if (g.get name).isSome then g name else f name

theorem merged_under (f g : Lookup) : Merged f g (f.under g) := by
  constructor
  · intro name hn
    have hother : ¬ (name = libraryVariable ∨ name = libraryAlias) := by
      rcases List.mem_pair.mp hn with rfl | rfl <;> decide
    rw [Lookup.under, if_neg hother]
    constructor
    · intro hg
      obtain ⟨v, hv⟩ := Lookup.sets_iff.mp hg
      simp [hv]
    · intro hg
      simp [Lookup.get_eq_none.mpr hg]
  · intro name hn
    have hlibrary : name = libraryVariable ∨ name = libraryAlias := List.mem_pair.mp hn
    rw [Lookup.under, if_pos hlibrary]
    constructor
    · intro hg
      have hsome : g.library? ≠ none := fun hnone => Lookup.library?_eq_none.mp hnone hg
      rw [if_pos (Option.isSome_iff_ne_none.mpr hsome)]
    · intro hg
      simp [Lookup.library?_eq_none.mpr hg]

namespace Merged

variable {f g h : Lookup}

theorem get (hm : Merged f g h) {name : String} (hn : name ∈ [initVariable, finalizeVariable]) :
    h.get name = (g.get name).or (f.get name) := by
  obtain ⟨hset, hunset⟩ := hm.symbol name hn
  by_cases hg : g.Sets name
  · obtain ⟨v, hv⟩ := Lookup.sets_iff.mp hg
    have hsame : h.get name = g.get name := by rw [Lookup.get, Lookup.get, hset hg]
    rw [hsame, hv, Option.some_or]
  · have hsame : h.get name = f.get name := by rw [Lookup.get, Lookup.get, hunset hg]
    rw [hsame, Lookup.get_eq_none.mpr hg, Option.none_or]

theorem library? (hm : Merged f g h) : h.library? = g.library?.or f.library? := by
  obtain ⟨hset, hunset⟩ := hm.library libraryVariable (by simp)
  obtain ⟨hset', hunset'⟩ := hm.library libraryAlias (by simp)
  by_cases hg : g.SetsLibrary
  · have hsame : h.library? = g.library? := by
      rw [Lookup.library?, Lookup.library?, Lookup.get, Lookup.get, Lookup.get, Lookup.get, hset hg,
        hset' hg]
    -- An alias that `g` sets still beats the first name in `f`.
    obtain ⟨path, hpath⟩ : ∃ path, g.library? = some path :=
      Option.ne_none_iff_exists'.mp fun hnone => Lookup.library?_eq_none.mp hnone hg
    rw [hsame, hpath, Option.some_or]
  · have hsame : h.library? = f.library? := by
      rw [Lookup.library?, Lookup.library?, Lookup.get, Lookup.get, Lookup.get, Lookup.get,
        hunset hg, hunset' hg]
    rw [hsame, Lookup.library?_eq_none.mpr hg, Option.none_or]

theorem overlay (hm : Merged f g h) : h.overlay = g.overlay.or f.overlay := by
  unfold Lookup.overlay Overlay.or
  rw [hm.library?, hm.get (by simp), hm.get (by simp)]

theorem withOverrides (hm : Merged f g h) (c : Config) :
    (c.withOverrides f).withOverrides g = c.withOverrides h := by
  rw [withOverrides_eq, withOverrides_eq, withOverrides_eq, hm.overlay, Overlay.lay_or]

end Merged

theorem overlay_apart {f g : Lookup} (hl : ¬ (f.SetsLibrary ∧ g.SetsLibrary))
    (hs : ∀ name ∈ [initVariable, finalizeVariable], ¬ (f.Sets name ∧ g.Sets name)) :
    f.overlay.Apart g.overlay := by
  have hget : ∀ name ∈ [initVariable, finalizeVariable], f.get name = none ∨ g.get name = none := by
    intro name hn
    rw [Lookup.get_eq_none, Lookup.get_eq_none]
    exact not_and_or.mp (hs name hn)
  refine ⟨?_, hget _ (by simp), hget _ (by simp)⟩
  show f.library? = none ∨ g.library? = none
  rw [Lookup.library?_eq_none, Lookup.library?_eq_none]
  exact not_and_or.mp hl

/-- Two lookups laid over a configuration, one after the other, are one lookup that answers for
    both, whatever the configuration. So a lookup laid over it twice does what it does once, one
    that sets nothing changes nothing, and two that set no field in common can change places. -/
theorem overlays_compose :
    (∀ f g, Merged f g (Lookup.under f g)) ∧
    (∀ f g h, Merged f g h → ∀ c : Config,
      (c.withOverrides f).withOverrides g = c.withOverrides h) ∧
    (∀ (f : Lookup) (c : Config), (c.withOverrides f).withOverrides f = c.withOverrides f) ∧
    (∀ f : Lookup,
      (∀ name ∈ [libraryVariable, libraryAlias, initVariable, finalizeVariable], ¬ f.Sets name) →
      ∀ c : Config, c.withOverrides f = c) ∧
    ∀ f g : Lookup, ¬ (f.SetsLibrary ∧ g.SetsLibrary) →
      (∀ name ∈ [initVariable, finalizeVariable], ¬ (f.Sets name ∧ g.Sets name)) →
      ∀ c : Config, (c.withOverrides f).withOverrides g = (c.withOverrides g).withOverrides f := by
  refine ⟨merged_under, fun f g h hm => hm.withOverrides, ?_, ?_, ?_⟩
  · intro f c
    rw [withOverrides_eq, withOverrides_eq, ← Overlay.lay_or, Overlay.or_self]
  · intro f hf c
    have hlibrary : f.library? = none := by
      refine Lookup.library?_eq_none.mpr ?_
      exact not_or.mpr ⟨hf _ (by simp), hf _ (by simp)⟩
    have hnone : f.overlay = ⟨none, none, none⟩ := by
      rw [Lookup.overlay, hlibrary, Lookup.get_eq_none.mpr (hf _ (by simp)),
        Lookup.get_eq_none.mpr (hf _ (by simp))]
    rw [withOverrides_eq, hnone]
    rfl
  · intro f g hl hs c
    have hcomm := (overlay_apart hl hs).or_comm
    rw [withOverrides_eq, withOverrides_eq, withOverrides_eq c g, withOverrides_eq _ f,
      ← Overlay.lay_or, ← Overlay.lay_or, hcomm]

/-- A lookup with the first name of the library and an initializer. -/
def earlyVariables : Lookup
  | "LIBKET_PATH" => some "first"
  | "KET_INIT_SYMBOL" => some "go"
  | _ => none

/-- A lookup with the second name of the library, the first one empty. -/
def lateVariables : Lookup
  | "LIBKET_PATH" => some ""
  | "KET_LIBRARY_PATH" => some "second"
  | _ => none

theorem variables_overlays_compose :
    let both := earlyVariables.under lateVariables
    (∀ c : Config, (c.withOverrides earlyVariables).withOverrides lateVariables =
      c.withOverrides both) ∧
    (Config.default.withOverrides both).library = Utf8.ofString "second" ∧
    (Config.default.withOverrides both).symbols.init = "go" ∧
    (∀ c : Config, c.withOverrides (fun _ => some "") = c) ∧
    ∀ c : Config, (c.withOverrides earlyVariables).withOverrides (fun _ => none) =
      (c.withOverrides fun _ => none).withOverrides earlyVariables := by
  intro both
  obtain ⟨hunder, hmerged, -, hbare, hcomm⟩ := overlays_compose
  refine ⟨hmerged _ _ _ (hunder _ _), by decide +kernel, by decide, hbare _ ?_, hcomm _ _ ?_ ?_⟩
  · intro name _ h
    obtain ⟨v, hv, hne⟩ := h
    exact hne (Option.some.inj hv).symm
  · intro h
    obtain ⟨_, hv, -⟩ | ⟨_, hv, -⟩ := h.2 <;> cases hv
  · intro name _ h
    obtain ⟨_, hv, -⟩ := h.2
    cases hv

/-! ## The variables of a process -/

/-- The value of a variable that is set and not empty. -/
def Environment.value? (env : Environment) (name : String) : Option Bytes :=
  (List.lookup name env).filter (· ≠ [])

def isText (b : Bytes) : Bool := (Utf8.decode? b).isSome

theorem isText_ofString (s : String) : isText (Utf8.ofString s) = true := by
  have hd : Utf8.decode? (Utf8.ofString s) = some s.toList := Utf8.decode?_eq_some.mpr rfl
  rw [isText, hd, Option.isSome_some]

/-- What is read of a value: its own bytes, if there are any and they are text. -/
theorem text_value (b : Bytes) :
    ((Utf8.toString? b).filter (· ≠ "")).map Utf8.ofString =
      ((some b).filter (· ≠ [])).filter isText := by
  by_cases hb : b = []
  · rw [hb]
    rfl
  · cases hd : Utf8.decode? b with
    | none =>
      have htext : isText b = false := by rw [isText, hd, Option.isSome_none]
      simp [Utf8.toString?, hd, Option.filter_some, hb, htext]
    | some cs =>
      have htext : isText b = true := by rw [isText, hd, Option.isSome_some]
      have hbytes : Utf8.ofString (String.ofList cs) = b := by
        rw [Utf8.ofString, String.toList_ofList, Utf8.decode?_eq_some.mp hd]
      have hne : String.ofList cs ≠ "" := by
        intro hempty
        rw [hempty] at hbytes
        exact hb hbytes.symm
      simp [Utf8.toString?, hd, Option.filter_some, hne, hb, htext, hbytes]

theorem lookup_get (env : Environment) (name : String) :
    (env.lookup.get name).map Utf8.ofString = (env.value? name).filter isText := by
  unfold Lookup.get Environment.lookup Environment.value?
  cases List.lookup name env with
  | none => rfl
  | some b => exact text_value b

/-- Passing over the values that are no text makes no difference if the first value there is holds
    text. If not, it makes none only when the fallback `d` is reached and is that very value. -/
theorem filtered_getD_eq_iff {x y : Option Bytes} {d : Bytes} :
    ((x.filter isText).or (y.filter isText)).getD d = (x.or y).getD d ↔
      ∀ b, x.or y = some b → isText b ∨ (y.filter isText = none ∧ d = b) := by
  cases x with
  | none =>
    cases y with
    | none => simp
    | some b => cases hb : isText b <;> simp [Option.filter_some, hb]
  | some b =>
    cases hb : isText b with
    | true => simp [Option.filter_some, hb]
    | false =>
      cases hy : y.filter isText with
      | none => simp [Option.filter_some, hb]
      | some b' =>
        have htext : isText b' = true := (Option.filter_eq_some_iff.mp hy).2
        have hne : b' ≠ b := by
          rintro rfl
          rw [hb] at htext
          cases htext
        simp [Option.filter_some, hb, hne]

/-- The library under the variables of a process: the bytes of `LIBKET_PATH` if it is set, not
    empty, and text; else those of `KET_LIBRARY_PATH` if these are; else the one there was. That is
    the first of the two that is set and not empty, as long as this one holds text. If it does not,
    the library is at its bytes only when it was before and the second name has no text either. -/
theorem library_of_process (env : Environment) (c : Config) :
    (c.withEnvironment env).library =
      (((env.value? "LIBKET_PATH").filter isText).or
        ((env.value? "KET_LIBRARY_PATH").filter isText)).getD c.library ∧
    ((c.withEnvironment env).library =
        ((env.value? "LIBKET_PATH").or (env.value? "KET_LIBRARY_PATH")).getD c.library ↔
      ∀ b, (env.value? "LIBKET_PATH").or (env.value? "KET_LIBRARY_PATH") = some b →
        isText b ∨ ((env.value? "KET_LIBRARY_PATH").filter isText = none ∧ c.library = b)) := by
  have hlibrary : (c.withEnvironment env).library =
      (((env.value? "LIBKET_PATH").filter isText).or
        ((env.value? "KET_LIBRARY_PATH").filter isText)).getD c.library := by
    rw [withEnvironment, withOverrides_eq, ← lookup_get, ← lookup_get, ← Option.map_or]
    rfl
  refine ⟨hlibrary, ?_⟩
  rw [hlibrary]
  exact filtered_getD_eq_iff

theorem alias_library_of_process :
    let env : Environment := [("LIBKET_PATH", []), ("KET_LIBRARY_PATH", Utf8.ofString "/alias")]
    (∀ b, (env.value? "LIBKET_PATH").or (env.value? "KET_LIBRARY_PATH") = some b → isText b) ∧
    (Config.default.withEnvironment env).library = Utf8.ofString "/alias" := by
  intro env
  have htext : ∀ b, (env.value? "LIBKET_PATH").or (env.value? "KET_LIBRARY_PATH") = some b →
      isText b := by
    intro b hb
    obtain rfl : Utf8.ofString "/alias" = b := Option.some.inj hb
    exact isText_ofString "/alias"
  exact ⟨htext, (library_of_process env .default).2.mpr fun b hb => .inl (htext b hb)⟩

/-- Two variables, of which the first ends in a byte that belongs to no character. -/
def brokenFirst : Environment :=
  [("LIBKET_PATH", [0x2f, 0x70, 0xff]), ("KET_LIBRARY_PATH", Utf8.ofString "/alias")]

/-- The first variable does not win whatever it holds: set and not empty, but no text, it is passed
    over for the second. -/
theorem first_variable_passed_over :
    brokenFirst.IsProcess ∧ brokenFirst.value? "LIBKET_PATH" = some [0x2f, 0x70, 0xff] ∧
    (Config.default.withEnvironment brokenFirst).library = Utf8.ofString "/alias" ∧
    ¬ ∀ (env : Environment) (c : Config), env.IsProcess → (c.withEnvironment env).library =
      ((env.value? "LIBKET_PATH").or (env.value? "KET_LIBRARY_PATH")).getD c.library := by
  have hprocess : brokenFirst.IsProcess := by
    unfold Environment.IsProcess brokenFirst
    decide
  have hfirst : brokenFirst.value? "LIBKET_PATH" = some [0x2f, 0x70, 0xff] := by decide
  have hlibrary :
      (Config.default.withEnvironment brokenFirst).library = Utf8.ofString "/alias" := by
    decide +kernel
  refine ⟨hprocess, hfirst, hlibrary, ?_⟩
  intro h
  have hwins := h brokenFirst .default hprocess
  rw [hlibrary, hfirst, Option.some_or, Option.getD_some] at hwins
  exact absurd hwins (by decide)

end ScopedEngine.Config
