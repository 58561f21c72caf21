/-
Equality in conditions and the two forms of a number.

A number can be written as an integer or as a fraction, and equality is meant to
look at its value only. `Reformed` relates a value to every value that comes
from it by writing numbers in their other form, at any depth; its parameter says
whether numbers inside objects may be rewritten too.

Equality sees through the forms in lists of any depth, and stops at objects,
which it compares by form: a value is equal to a rewritten one exactly if no
number inside an object has changed its form (`valuesEqual_iff_reformed`). One
direction is that equality follows the relation down through lists
(`valuesEqual_of_reformed`). The other one is that values of the same form that
are related at all are the same value (`Reformed.eq_of_same`).
-/
import HookRules.Proofs.Condition.Integers

namespace HookRules

-- ======================================================== the forms of a number

/-- The same number in one form or the other. An integer of magnitude at most
2^53 also has the form of a fraction of the same value. -/
inductive Number.Reformed : Number → Number → Prop where
  | refl (a : Number) : Reformed a a
  | toFloat {n : Int} {x : Binary64} (hn : n.natAbs ≤ 2 ^ 53)
      (hx : x.scaled = n * Binary64.unitsPerOne) : Reformed (.int n) (.float x)
  | toInt {n : Int} {x : Binary64} (hn : n.natAbs ≤ 2 ^ 53)
      (hx : x.scaled = n * Binary64.unitsPerOne) : Reformed (.float x) (.int n)

namespace Json

mutual

/-- A value with some of its numbers written in their other form: those outside
objects, and those inside objects if `inObjects` holds. -/
inductive Reformed (inObjects : Prop) : Json → Json → Prop where
  | refl (v : Json) : Reformed inObjects v v
  | num {a b : Number} (h : a.Reformed b) : Reformed inObjects (.num a) (.num b)
  | arr {vs ws : List Json} (h : ReformedItems inObjects vs ws) :
      Reformed inObjects (.arr vs) (.arr ws)
  | obj {fs gs : List (String × Json)} (ho : inObjects)
      (h : ReformedFields inObjects fs gs) :
      Reformed inObjects (.obj fs) (.obj gs)

/-- The items of a list, one by one. -/
inductive ReformedItems (inObjects : Prop) : List Json → List Json → Prop where
  | nil : ReformedItems inObjects [] []
  | cons {v w : Json} {vs ws : List Json} (h : Reformed inObjects v w)
      (hs : ReformedItems inObjects vs ws) :
      ReformedItems inObjects (v :: vs) (w :: ws)

/-- The fields of an object, one by one and under the same names. -/
inductive ReformedFields (inObjects : Prop) :
    List (String × Json) → List (String × Json) → Prop where
  | nil : ReformedFields inObjects [] []
  | cons {name : String} {v w : Json} {fs gs : List (String × Json)}
      (h : Reformed inObjects v w) (hs : ReformedFields inObjects fs gs) :
      ReformedFields inObjects ((name, v) :: fs) ((name, w) :: gs)

end

-- ================================================================= the same form

mutual

/-- A value is the same as itself. -/
theorem same_self (v : Json) : v.same v = true := by
  cases v with
  | null => rfl
  | bool b => exact beq_self_eq_true b
  | num a =>
      cases a with
      | int n => exact beq_self_eq_true n
      | float x => exact x.eqv_self
  | str s => exact beq_self_eq_true s
  | arr vs =>
      rw [same]
      exact sameItems_self vs
  | obj fs =>
      rw [same]
      exact sameFields_self fs

/-- So are the items of a list. -/
theorem sameItems_self (vs : List Json) : sameItems vs vs = true := by
  cases vs with
  | nil => rfl
  | cons v vs =>
      rw [sameItems, same_self v, sameItems_self vs]
      rfl

/-- So are the fields of an object. -/
theorem sameFields_self (fs : List (String × Json)) :
    sameFields fs fs = true := by
  cases fs with
  | nil => rfl
  | cons f fs =>
      obtain ⟨name, v⟩ := f
      rw [sameFields, same_self v, sameFields_self fs, beq_self_eq_true]
      rfl

end

/-- A number that is the same in the same form has not been rewritten. -/
theorem eq_of_same_number {a b : Number} (h : a.Reformed b)
    (hsame : a.same b = true) : a = b := by
  cases h with
  | refl => rfl
  | toFloat => cases hsame
  | toInt => cases hsame

mutual

/-- A value that is the same in the same form has not been rewritten. By
induction on the relation, one case for each place where a number can stand. -/
theorem Reformed.eq_of_same {p : Prop} {v w : Json} (h : Reformed p v w)
    (hsame : v.same w = true) : v = w := by
  cases h with
  | refl => rfl
  | num h => rw [eq_of_same_number h hsame]
  | arr h =>
      rw [same] at hsame
      rw [h.eq_of_same hsame]
  | obj _ h =>
      rw [same] at hsame
      rw [h.eq_of_same hsame]

/-- The same for the items of a list, pair by pair. -/
theorem ReformedItems.eq_of_same {p : Prop} {vs ws : List Json}
    (h : ReformedItems p vs ws) (hsame : sameItems vs ws = true) : vs = ws := by
  cases h with
  | nil => rfl
  | cons h hs =>
      rw [sameItems, Bool.and_eq_true] at hsame
      rw [h.eq_of_same hsame.1, hs.eq_of_same hsame.2]

/-- And for fields, whose names the relation keeps. -/
theorem ReformedFields.eq_of_same {p : Prop} {fs gs : List (String × Json)}
    (h : ReformedFields p fs gs) (hsame : sameFields fs gs = true) :
    fs = gs := by
  cases h with
  | nil => rfl
  | cons h hs =>
      rw [sameFields, Bool.and_eq_true, Bool.and_eq_true] at hsame
      rw [h.eq_of_same hsame.1.2, hs.eq_of_same hsame.2]

end

end Json

namespace Condition

-- ======================================================================= equality

/-- Every number is equal to itself, also where it does not fit an integer and
is compared as a fraction. -/
theorem numbersEqual_self (a : Number) : numbersEqual a a = true := by
  unfold numbersEqual
  cases a.int64? with
  | none => exact Binary64.eqv_self _
  | some n => exact beq_self_eq_true n

/-- A number is equal to its other form. -/
theorem numbersEqual_of_reformed {a b : Number} (h : a.Reformed b) :
    numbersEqual a b = true := by
  have hother : ∀ {n : Int} {x : Binary64}, n.natAbs ≤ 2 ^ 53 →
      x.scaled = n * Binary64.unitsPerOne →
      numbersEqual (.int n) (.float x) = true := by
    intro n x hn hx
    have hvalue : (Binary64.ofInt n).scaled = x.scaled :=
      (Binary64.scaled_ofInt_exact hn).trans hx.symm
    unfold numbersEqual
    split
    · next hfloat => cases hfloat
    · exact Binary64.eqv_eq_true_iff.mpr hvalue
  cases h with
  | refl => exact numbersEqual_self a
  | toFloat hn hx => exact hother hn hx
  | toInt hn hx =>
      rw [numbersEqual_comm]
      exact hother hn hx

/-- Equality hands objects over to the comparison by form, and does not come
back to the values inside them. -/
theorem valuesEqual_obj (fs gs : List (String × Json)) :
    valuesEqual (.obj fs) (.obj gs) = (Json.obj fs).same (.obj gs) := by
  rw [valuesEqual]
  · exact nofun
  · exact nofun

mutual

/-- Every value is equal to itself, since it is the same in the same form
wherever equality stops looking at values only. -/
theorem valuesEqual_self (v : Json) : valuesEqual v v = true := by
  cases v with
  | null => rfl
  | bool b => exact beq_self_eq_true b
  | num a => exact numbersEqual_self a
  | str s => exact beq_self_eq_true s
  | arr vs =>
      rw [valuesEqual]
      exact itemsEqual_self vs
  | obj fs =>
      rw [valuesEqual_obj]
      exact Json.same_self _

/-- So are the items of a list. -/
theorem itemsEqual_self (vs : List Json) : itemsEqual vs vs = true := by
  cases vs with
  | nil => rfl
  | cons v vs =>
      rw [itemsEqual, valuesEqual_self v, itemsEqual_self vs]
      rfl

end

mutual

/-- Equality sees through the forms of numbers outside objects. -/
theorem valuesEqual_of_reformed {v w : Json} (h : Json.Reformed False v w) :
    valuesEqual v w = true := by
  cases h with
  | refl => exact valuesEqual_self v
  | num h => exact numbersEqual_of_reformed h
  | arr h =>
      rw [valuesEqual]
      exact itemsEqual_of_reformed h
  | obj ho => exact ho.elim

/-- Rewritten items are equal one by one; none of their objects may have been
touched. -/
theorem itemsEqual_of_reformed {vs ws : List Json}
    (h : Json.ReformedItems False vs ws) : itemsEqual vs ws = true := by
  cases h with
  | nil => rfl
  | cons h hs =>
      rw [itemsEqual, valuesEqual_of_reformed h, itemsEqual_of_reformed hs]
      rfl

end

mutual

/-- What is equal to a rewritten value was not rewritten inside objects. -/
theorem reformed_of_valuesEqual {p : Prop} {v w : Json}
    (h : Json.Reformed p v w) (heq : valuesEqual v w = true) :
    Json.Reformed False v w := by
  cases h with
  | refl => exact .refl v
  | num h => exact .num h
  | arr h =>
      rw [valuesEqual] at heq
      exact .arr (reformedItems_of_itemsEqual h heq)
  | obj ho h =>
      rw [valuesEqual_obj] at heq
      rw [(Json.Reformed.obj ho h).eq_of_same heq]
      exact .refl _

/-- Items that are equal and rewritten anyhow are rewritten outside of objects
only. -/
theorem reformedItems_of_itemsEqual {p : Prop} {vs ws : List Json}
    (h : Json.ReformedItems p vs ws) (heq : itemsEqual vs ws = true) :
    Json.ReformedItems False vs ws := by
  cases h with
  | nil => exact .nil
  | cons h hs =>
      rw [itemsEqual, Bool.and_eq_true] at heq
      exact .cons (reformed_of_valuesEqual h heq.1)
        (reformedItems_of_itemsEqual hs heq.2)

end

/-- A value is equal to one in which some of its numbers are written in their
other form exactly if none of these stands inside an object. -/
theorem valuesEqual_iff_reformed {v w : Json} (h : Json.Reformed True v w) :
    valuesEqual v w = true ↔ Json.Reformed False v w :=
  ⟨reformed_of_valuesEqual h, valuesEqual_of_reformed⟩

/-- A fraction in a list in a list, beside an object. -/
theorem equality_of_nested_lists :
    Json.Reformed True
        (.arr [.arr [.ofInt 1, .obj [("a", .ofInt 2)]]])
        (.arr [.arr [.num (.float (.ofInt 1)), .obj [("a", .ofInt 2)]]])
      ∧ valuesEqual
          (.arr [.arr [.ofInt 1, .obj [("a", .ofInt 2)]]])
          (.arr [.arr [.num (.float (.ofInt 1)), .obj [("a", .ofInt 2)]]])
        = true := by
  have hone : (Number.int 1).Reformed (.float (.ofInt 1)) :=
    .toFloat (by decide) (Binary64.scaled_ofInt_exact (by decide))
  have h : ∀ p, Json.Reformed p
      (.arr [.arr [.ofInt 1, .obj [("a", .ofInt 2)]]])
      (.arr [.arr [.num (.float (.ofInt 1)), .obj [("a", .ofInt 2)]]]) :=
    fun p => .arr (.cons (.arr (.cons (.num hone) (.cons (.refl _) .nil))) .nil)
  exact ⟨h True, (valuesEqual_iff_reformed (h True)).mpr (h False)⟩

/-- A number inside an object is another one in its other form. -/
theorem equality_stops_at_objects :
    Json.Reformed True (.obj [("a", .ofInt 1)])
        (.obj [("a", .num (.float (.ofInt 1)))])
      ∧ valuesEqual (.obj [("a", .ofInt 1)])
          (.obj [("a", .num (.float (.ofInt 1)))]) = false := by
  have hone : (Number.int 1).Reformed (.float (.ofInt 1)) :=
    .toFloat (by decide) (Binary64.scaled_ofInt_exact (by decide))
  exact ⟨.obj trivial (.cons (.num hone) .nil), rfl⟩

end Condition

end HookRules
