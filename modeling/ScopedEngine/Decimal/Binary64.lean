/-
  ScopedEngine.Decimal.Binary64 — the floating-point numbers of 64 bits, exactly.

  A finite value is a sign and `m · 2 ^ q`, with `m < 2 ^ 53` and `-1074 ≤ q`. `nearest` rounds
  a decimal `d · 10 ^ e` to the closest such value, a tie to even `m`; `read?` reads the usual
  notation (sign, digits with at most one point, exponent).
-/

namespace ScopedEngine.Decimal

inductive Binary64 where
  | finite (negative : Bool) (m : Nat) (q : Int)
  | infinity (negative : Bool)
  | nan
  deriving DecidableEq, Repr

namespace Binary64

/-- The quotient rounded to the nearest number, a tie to the even one. -/
def roundDiv (n d : Nat) : Nat :=
  let k := n / d
  let r := n % d
  if 2 * r < d then k else if d < 2 * r then k + 1 else if k % 2 = 0 then k else k + 1

/-- The power `b ^ e` as a fraction. -/
def power (b : Nat) (e : Int) : Nat × Nat :=
  if 0 ≤ e then (Nat.pow b e.toNat, 1) else (1, Nat.pow b (-e).toNat)

/-- `2 ^ 53`: significands are smaller. -/
def significandLimit : Nat := 0x20000000000000

/-- The least exponent of a finite value. -/
def minExp : Int := -1074

/-- The greatest exponent of a finite value. -/
def maxExp : Int := 971

/-- `n / d` as `m · 2 ^ q`; `none` when it lies beyond the greatest finite value. -/
def nearestRatio (n d : Nat) : Option (Nat × Int) :=
  if n = 0 then some (0, minExp)
  else
    let guess : Int := (n.log2 : Int) - (d.log2 : Int) - 53
    let q := max guess minExp
    let m := fun (q : Int) =>
      let p := power 2 q
      roundDiv (n * p.2) (d * p.1)
    let q := if m q < significandLimit then q else q + 1
    let q := if m q < significandLimit then q else q + 1
    if maxExp < q then none else some (m q, q)

/-- `d · 10 ^ e` rounded; exponents far outside the range are settled without computing the
    power. -/
def nearest (d : Nat) (e : Int) : Option (Nat × Int) :=
  if d = 0 then some (0, minExp)
  else
    let places : Int := (Nat.toDigits 10 d).length
    if 310 < places + e then none
    else if places + e < -330 then some (0, minExp)
    else
      let p := power 10 e
      nearestRatio (d * p.1) p.2

def digitsValue (ds : List Char) : Nat := ds.foldl (fun n c => n * 10 + (c.toNat - 0x30)) 0

def isDigit (c : Char) : Bool := '0' ≤ c && c ≤ '9'

/-- The exponent after `e`: an optional sign and digits, to the end. -/
def exponent? : List Char → Option Int
  | '-' :: s => if s ≠ [] && s.all isDigit then some (-(digitsValue s : Int)) else none
  | '+' :: s => if s ≠ [] && s.all isDigit then some (digitsValue s) else none
  | s => if s ≠ [] && s.all isDigit then some (digitsValue s) else none

/-- Digits with at most one point and an optional exponent; at least one digit. -/
def unsigned? (s : List Char) : Option (Nat × Int) :=
  let whole := s.takeWhile isDigit
  let s := s.dropWhile isDigit
  let (frac, s) := match s with
    | '.' :: s => (s.takeWhile isDigit, s.dropWhile isDigit)
    | s => ([], s)
  if whole = [] && frac = [] then none
  else
    let d := digitsValue (whole ++ frac)
    let scale : Int := -(frac.length : Int)
    match s with
    | [] => some (d, scale)
    | c :: s => if c = 'e' || c = 'E' then (exponent? s).map fun e => (d, scale + e) else none

/-- The finite value that a notation rounds to; `none` for any other text, and beyond the
    range. -/
def read? (s : List Char) : Option Binary64 :=
  let (negative, s) := match s with
    | '-' :: s => (true, s)
    | '+' :: s => (false, s)
    | s => (false, s)
  match unsigned? s with
  | none => none
  | some (d, e) => (nearest d e).map fun v => finite negative v.1 v.2

end Binary64

end ScopedEngine.Decimal
