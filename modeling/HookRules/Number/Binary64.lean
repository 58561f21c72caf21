/-
Finite binary64 numbers, kept by rank.

The non-negative finite numbers of the format form one increasing sequence:
zero, the subnormals, then 2^52 numbers in each binade. A number is its sign
and its place in that sequence, so every value of the type is a number of the
format, written in one way only (the two zeros differ in sign).

# Exact values

Every finite number is a whole multiple of 2^-1074. `units` is that multiple
and `scaled` the signed one, so comparing two numbers, or a number and an
integer, is comparing two integers.

# Rounding

`rankOfRatio` is the only place where a value is rounded: the ratio of two
naturals, in units, goes to the nearest rank and a tie to the even one. The
carry out of a full significand needs no case of its own, because the first
rank of a binade follows the last rank of the one below.
-/
namespace HookRules

/-- A finite binary64 number: its sign and the place of its magnitude among
the finite magnitudes. -/
structure Binary64 where
  negative : Bool
  rank : Nat
  rank_lt : rank < 2047 * Nat.pow 2 52
deriving DecidableEq

namespace Binary64

-- ===================================================== exact values

/-- The significand: the rank itself up to the end of the first normal
binade, else a hidden bit and the place within the binade. -/
def significand (x : Binary64) : Nat :=
  if x.rank < Nat.pow 2 52 then x.rank else Nat.pow 2 52 + x.rank % Nat.pow 2 52

/-- How often the unit 2^-1074 is doubled to give the spacing of the binade. -/
def shift (x : Binary64) : Nat := x.rank / Nat.pow 2 52 - 1

/-- The magnitude in units of 2^-1074. -/
def units (x : Binary64) : Nat := x.significand * Nat.pow 2 x.shift

/-- The signed value in units of 2^-1074. -/
def scaled (x : Binary64) : Int := if x.negative then -(x.units : Int) else x.units

/-- The number of units in one. -/
def unitsPerOne : Nat := Nat.pow 2 1074

-- ========================================================= rounding

/-- The integer nearest to `num / den`, a half going to the even neighbour. -/
def roundHalfEven (num den : Nat) : Nat :=
  let q := num / den
  let r := num % den
  if 2 * r < den ∨ (2 * r = den ∧ q % 2 = 0) then q else q + 1

/-- The rank nearest to `num / den` units. A ratio past the largest finite
number may give a rank past the last one. -/
def rankOfRatio (num den : Nat) : Nat :=
  let s := Nat.log2 (num / den) - 52
  s * Nat.pow 2 52 + roundHalfEven num (den * Nat.pow 2 s)

/-- The number of a sign and a rank, if the rank is one of the finite ones. -/
def ofRank? (negative : Bool) (rank : Nat) : Option Binary64 :=
  if h : rank < 2047 * Nat.pow 2 52 then some ⟨negative, rank, h⟩ else none

/-- The number nearest to `num / den` units, if it is finite. -/
def ofRatio? (negative : Bool) (num den : Nat) : Option Binary64 :=
  ofRank? negative (rankOfRatio num den)

/-- The number of a sign and a rank; a rank past the last one stands for the
largest finite magnitude. -/
def ofRank (negative : Bool) (rank : Nat) : Binary64 :=
  ⟨negative, min rank (2047 * Nat.pow 2 52 - 1),
    Nat.lt_of_le_of_lt (Nat.min_le_right ..) (by decide)⟩

/-- Positive zero. -/
def zero : Binary64 := ⟨false, 0, by decide⟩

instance : Inhabited Binary64 := ⟨zero⟩

/-- The number nearest to an integer, the largest finite one if the integer
lies beyond the range. -/
def ofInt (n : Int) : Binary64 :=
  ofRank (decide (n < 0)) (rankOfRatio (n.natAbs * unitsPerOne) 1)

-- ======================================================= operations

/-- The opposite number; zero has two signs. -/
def neg (x : Binary64) : Binary64 := { x with negative := !x.negative }

instance : Neg Binary64 := ⟨neg⟩

/-- Both zeros are zero. -/
def isZero (x : Binary64) : Bool := x.rank == 0

/-- Numeric equality, which does not tell the two zeros apart. -/
def eqv (x y : Binary64) : Bool := x.scaled == y.scaled

/-- Numeric order. -/
def order (x y : Binary64) : Ordering := compare x.scaled y.scaled

/-- The rounded product, if it is finite. -/
def mul? (x y : Binary64) : Option Binary64 :=
  ofRatio? (x.negative != y.negative) (x.units * y.units) unitsPerOne

/-- The rounded quotient, if the divisor is not zero and it is finite. -/
def div? (x y : Binary64) : Option Binary64 :=
  if y.isZero then none
  else ofRatio? (x.negative != y.negative) (x.units * unitsPerOne) y.units

-- ==================================================== simple laws

@[simp] theorem eqv_self (x : Binary64) : x.eqv x = true := by simp [eqv]

theorem eqv_comm (x y : Binary64) : x.eqv y = y.eqv x := by
  simp [eqv, Bool.beq_comm]

theorem eqv_eq_true_iff {x y : Binary64} : x.eqv y = true ↔ x.scaled = y.scaled := by
  simp [eqv]

end Binary64

end HookRules
