/-
Comparing values in conditions.

Integers that fit 64 bits with a sign compare exactly and any other two numbers
as binary64. Texts compare by their characters. Equality holds between any two
values; order only between two numbers or two texts.
-/
import HookRules.Json.Basic

namespace HookRules

namespace Condition

/-- The names of the types of values. -/
inductive Kind where
  | null | bool | number | string | list | object
deriving DecidableEq

def Kind.name : Kind → String
  | .null => "null"
  | .bool => "bool"
  | .number => "number"
  | .string => "string"
  | .list => "list"
  | .object => "object"

def kindOf : Json → Kind
  | .null => .null
  | .bool _ => .bool
  | .num _ => .number
  | .str _ => .string
  | .arr _ => .list
  | .obj _ => .object

theorem kindOf_eq_number {v : Json} (h : kindOf v = .number) :
    ∃ n, v = .num n := by
  cases v with
  | num n => exact ⟨n, rfl⟩
  | _ => cases h

theorem kindOf_eq_string {v : Json} (h : kindOf v = .string) :
    ∃ s, v = .str s := by
  cases v with
  | str s => exact ⟨s, rfl⟩
  | _ => cases h

/-- Whether a value counts as true: anything but null, false, zero and what is
empty. -/
def truthy : Json → Bool
  | .null => false
  | .bool b => b
  | .num n => !n.toBinary64.isZero
  | .str s => s ≠ ""
  | .arr items => !items.isEmpty
  | .obj fields => !fields.isEmpty

/-- Equality of numbers. -/
def numbersEqual (a b : Number) : Bool :=
  match a.int64?, b.int64? with
  | some m, some n => m == n
  | _, _ => a.toBinary64.eqv b.toBinary64

mutual

/-- Equality of values: numbers by value, lists item by item, everything else by
value and form. -/
def valuesEqual : Json → Json → Bool
  | .num a, .num b => numbersEqual a b
  | .arr as, .arr bs => itemsEqual as bs
  | a, b => a.same b

def itemsEqual : List Json → List Json → Bool
  | [], [] => true
  | a :: as, b :: bs => valuesEqual a b && itemsEqual as bs
  | _, _ => false

end

/-- The order of two numbers. -/
def orderNumbers (a b : Number) : Ordering :=
  match a.int64?, b.int64? with
  | some m, some n => compare m n
  | _, _ => a.toBinary64.order b.toBinary64

/-- The order of two texts, by their characters. -/
def orderTexts (a b : String) : Ordering :=
  if a < b then .lt else if a = b then .eq else .gt

/-- The order of two values, if they have one. -/
def order? : Json → Json → Option Ordering
  | .num a, .num b => some (orderNumbers a b)
  | .str a, .str b => some (orderTexts a b)
  | _, _ => none

end Condition

end HookRules
