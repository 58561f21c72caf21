/-
Reading decimal text as binary64.

Two rules are needed. `Decimal.nearest?` gives the number nearest to
`digits * 10^exponent`; conditions and configuration files read their
fractions so. `Decimal.stepwise?` is the reading of JSON text: the digits that
fit 64 bits are rounded to a number first, and that number is then multiplied
or divided by rounded powers of ten, so its last bit can differ from the
nearest number's.
-/
import HookRules.Number.Binary64

namespace HookRules

namespace Decimal

/-- The value of a list of decimal digits, most significant first. -/
def ofDigits (ds : List Char) : Nat :=
  ds.foldl (fun n c => 10 * n + (c.toNat - '0'.toNat)) 0

/-- The number nearest to `± digits * 10^exponent`, if it is finite. Exponents
that put the value far outside the format's range are decided without
computing the power. -/
def nearest? (negative : Bool) (digits : Nat) (exponent : Int) : Option Binary64 :=
  if digits = 0 then some { Binary64.zero with negative }
  else if 0 ≤ exponent then
    if 400 < exponent then none
    else Binary64.ofRatio? negative
      (digits * Nat.pow 10 exponent.toNat * Binary64.unitsPerOne) 1
  else
    let e := (-exponent).toNat
    if Nat.log2 digits + 1200 < e then some { Binary64.zero with negative }
    else Binary64.ofRatio? negative (digits * Binary64.unitsPerOne) (Nat.pow 10 e)

/-- The number nearest to a power of ten, for exponents up to 308. -/
def powerOfTen (n : Nat) : Binary64 := Binary64.ofInt (Nat.pow 10 n)

/-- The powers by which a value is divided one after the other for a factor of
`10^(-places)`: 308 places as often as more than 308 are left, then the rest.
Three such steps bring every 64-bit value to zero, so no more are listed. -/
def divisions (places : Nat) : List Nat :=
  let full := (places - 1) / 308
  List.replicate (min full 3) 308 ++ [places - 308 * full]

/-- Multiplication by a power of ten, in rounded steps; `none` when the value
grows past the finite numbers. -/
def scale? (x : Binary64) (exponent : Int) : Option Binary64 :=
  if x.isZero then some x
  else if 0 ≤ exponent then
    if 308 < exponent then none else x.mul? (powerOfTen exponent.toNat)
  else (divisions (-exponent).toNat).foldlM (fun y n => y.div? (powerOfTen n)) x

/-- The digits that are kept: as long as the value stays below 2^64. Gives the
value, how many digits went in, and how many were left over. -/
def accumulate : Nat → List Char → Nat × Nat × Nat
  | n, [] => (n, 0, 0)
  | n, c :: cs =>
    let next := 10 * n + (c.toNat - '0'.toNat)
    if next < Nat.pow 2 64 then
      let (value, taken, left) := accumulate next cs
      (value, taken + 1, left)
    else (n, 0, cs.length + 1)

/-- The reading of a JSON number that is no 64-bit integer: whole digits,
fraction digits and the written exponent. Whole digits that do not fit count
as factors of ten, fraction digits that do not fit are dropped. -/
def stepwise? (negative : Bool) (whole fraction : List Char) (exponent : Int) :
    Option Binary64 :=
  let (head, _, left) := accumulate 0 whole
  let (value, taken, _) := accumulate head fraction
  let x := Binary64.ofInt value
  (scale? x ((left : Int) - taken + exponent)).map fun y =>
    if negative then -y else y

end Decimal

end HookRules
