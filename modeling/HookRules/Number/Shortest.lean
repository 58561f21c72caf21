/-
The shortest decimal that reads back as a given binary64 number.

The reals that round to a number form an interval around it, its ends included
exactly when the significand is even. The digits written for the number are
those of the coarsest decimal grid that has a point in the interval; of the
two neighbours of the number on that grid the one inside, and of two inside
the nearer, an exact tie going to the even one.

# Layout

The digits and the exponent say nothing about where the point goes. A `Layout`
does: which exponents are written positionally and how an exponent is marked.
-/
import HookRules.Number.Binary64

namespace HookRules

namespace Binary64

-- ==================================================== the interval

/-- Lower end, value and upper end of the reals that round to the number, in
quarters of a unit. The gap below the first number of a binade is half as wide
as the one above it. -/
def interval (x : Binary64) : Nat × Nat × Nat :=
  let v := 4 * x.units
  let above := 2 * Nat.pow 2 x.shift
  let below := if x.significand = Nat.pow 2 52 ∧ 0 < x.shift then Nat.pow 2 x.shift else above
  (v - below, v, v + above)

/-- The best point of the grid of multiples of 10^exponent inside the
interval of a number: the multiple itself is returned. -/
def gridPoint? (x : Binary64) (exponent : Int) : Option Nat :=
  let (lo, v, hi) := x.interval
  -- one grid step and one quarter unit over a common denominator
  let step := if 0 ≤ exponent then Nat.pow 10 exponent.toNat * (4 * unitsPerOne) else 4 * unitsPerOne
  let quarter := if 0 ≤ exponent then 1 else Nat.pow 10 (-exponent).toNat
  let isEven := x.significand % 2 == 0
  let inside (d : Nat) : Bool :=
    let p := d * step
    if isEven then lo * quarter ≤ p && p ≤ hi * quarter
    else lo * quarter < p && p < hi * quarter
  let d := v * quarter / step
  match d != 0 && inside d, inside (d + 1) with
  | true, true =>
    let below := v * quarter - d * step
    let above := (d + 1) * step - v * quarter
    if below < above ∨ (below = above ∧ d % 2 = 0) then some d else some (d + 1)
  | true, false => some d
  | false, true => some (d + 1)
  | false, false => none

/-- A decimal exponent not below that of any grid with a point in the
interval. -/
def topExponent (x : Binary64) : Int :=
  ((Nat.log2 x.units : Int) - 1073) * 30103 / 100000 + 2

/-- Digits and exponent of the shortest decimal that reads back as the
magnitude of the number: the value of the digits times 10^exponent. -/
def shortest (x : Binary64) : Nat × Int :=
  if x.isZero then (0, 0)
  else
    ((List.range 24).findSome? fun (i : Nat) =>
      let e := x.topExponent - (i : Int)
      (x.gridPoint? e).map (·, e)).getD (0, 0)

-- ======================================================== layout

/-- How the digits of a number are laid out. -/
structure Layout where
  /-- The least exponent of the first digit that is written positionally. -/
  leastPositional : Int
  /-- The greatest exponent of the first digit that is written positionally. -/
  greatestPositional : Int
  /-- The mark before an exponent. -/
  mark : Char
  /-- What stands before an exponent that is not negative. -/
  plus : String

/-- Digits and exponent in a layout. A positional number has at least one digit
on each side of the point; a scientific one has a point only between digits. -/
def Layout.write (l : Layout) (digits : Nat) (exponent : Int) : String :=
  let ds := (Nat.repr digits).toList
  let first := exponent + ds.length - 1
  if l.leastPositional ≤ first ∧ first ≤ l.greatestPositional then
    if 0 ≤ exponent then
      String.ofList (ds ++ List.replicate exponent.toNat '0' ++ ['.', '0'])
    else if 0 ≤ first then
      let n := first.toNat + 1
      String.ofList (ds.take n ++ ['.'] ++ ds.drop n)
    else
      String.ofList (['0', '.'] ++ List.replicate ((-first).toNat - 1) '0' ++ ds)
  else
    let tail := match ds.drop 1 with
      | [] => []
      | rest => '.' :: rest
    let sign := if 0 ≤ first then l.plus else "-"
    String.ofList (ds.take 1 ++ tail ++ [l.mark]) ++ sign ++ Nat.repr first.natAbs

/-- The text of a number in a layout. -/
def render (l : Layout) (x : Binary64) : String :=
  let (digits, exponent) := x.shortest
  (if x.negative then "-" else "") ++ l.write digits exponent

end Binary64

end HookRules
