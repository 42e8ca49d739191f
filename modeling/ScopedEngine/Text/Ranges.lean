/-
  ScopedEngine.Text.Ranges — sets of characters given by ranges of their numbers.

  The tables of character properties list inclusive ranges of Unicode 17.0 in increasing order.
-/

namespace ScopedEngine.Text

/-- Inclusive ranges. -/
abbrev Ranges := List (Nat × Nat)

def Ranges.has (t : Ranges) (n : Nat) : Bool := t.any fun r => r.1 ≤ n && n ≤ r.2

theorem Ranges.has_of_mem {t : Ranges} {r : Nat × Nat} {n : Nat} (hr : r ∈ t) (lo : r.1 ≤ n)
    (hi : n ≤ r.2) : t.has n = true := by
  simp only [Ranges.has, List.any_eq_true, Bool.and_eq_true, decide_eq_true_eq]
  exact ⟨r, hr, lo, hi⟩

end ScopedEngine.Text
