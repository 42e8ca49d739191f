/-
  ScopedEngine.Decimal.Shortest — the fewest digits that read back.

  The reals that round to `m · 2 ^ q` form an interval, its ends included when `m` is even.
  `shortest` takes the coarsest decimal grid with a point in the interval and of that grid the
  point nearest to the value. `show` writes it without an exponent and with a fraction.
-/

import ScopedEngine.Decimal.Binary64

namespace ScopedEngine.Decimal

/-- The interval of `m · 2 ^ q` in units of `2 ^ (q - 2)`: below a power of two the neighbours
    are twice as close. -/
structure Interval where
  lo : Nat
  mid : Nat
  hi : Nat
  closed : Bool
  deriving DecidableEq, Repr

def interval (m : Nat) (q : Int) : Interval where
  lo := if 2 * m = Binary64.significandLimit && Binary64.minExp < q then 4 * m - 1 else 4 * m - 2
  mid := 4 * m
  hi := 4 * m + 2
  closed := m % 2 = 0

/-- Whether `a` steps of `p / r` fall into the interval. -/
def Interval.holds (i : Interval) (p r a : Nat) : Bool :=
  if i.closed then i.lo * r ≤ a * p && a * p ≤ i.hi * r
  else i.lo * r < a * p && a * p < i.hi * r

/-- The point of the grid of steps `p / r` in the interval that is nearest to its middle; of two
    equally near ones the greater. -/
def Interval.pick? (i : Interval) (p r : Nat) : Option Nat :=
  let a := i.mid * r / p
  let below := a ≠ 0 && i.holds p r a
  let above := i.holds p r (a + 1)
  if below && above then
    if i.mid * r - a * p < (a + 1) * p - i.mid * r then some a else some (a + 1)
  else if below then some a
  else if above then some (a + 1)
  else none

/-- The step of the grid `10 ^ k` in units of `2 ^ (q - 2)`. -/
def gridStep (k q : Int) : Nat × Nat :=
  let t := Binary64.power 10 k
  let b := Binary64.power 2 (q - 2)
  (t.1 * b.2, t.2 * b.1)

/-- The first of `n` grids, from `10 ^ k` to finer ones, with a point in the interval. -/
def search (i : Interval) (q : Int) : Nat → Int → Option (Nat × Int)
  | 0, _ => none
  | n + 1, k =>
    let s := gridStep k q
    match i.pick? s.1 s.2 with
    | some a => some (a, k)
    | none => search i q n (k - 1)

/-- Digits and decimal exponent of a positive value. The coarsest grid tried is above every
    finite value. -/
def shortest (m : Nat) (q : Int) : Nat × Int :=
  let top : Int := ((m.log2 : Int) + q) * 3 / 10 + 2
  (search (interval m q) q 40 top).getD (0, 0)

/-- `digits · 10 ^ e` in positional notation, always with a fraction. -/
def positional (digits : Nat) (e : Int) : List Char :=
  let ds := Nat.toDigits 10 digits
  if 0 ≤ e then ds ++ List.replicate e.toNat '0' ++ ".0".toList
  else
    let places := (-e).toNat
    if places < ds.length then ds.take (ds.length - places) ++ '.' :: ds.drop (ds.length - places)
    else "0.".toList ++ List.replicate (places - ds.length) '0' ++ ds

/-- Numbers without an exponent and with a fraction; `inf` and `NaN` for the rest. -/
def Binary64.show : Binary64 → List Char
  | .finite negative m q =>
    (if negative then ['-'] else []) ++
      (if m = 0 then "0.0".toList else let s := shortest m q; positional s.1 s.2)
  | .infinity negative => (if negative then "-inf" else "inf").toList
  | .nan => "NaN".toList

end ScopedEngine.Decimal
