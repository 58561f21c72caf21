/-
Which comparisons of two values agree with each other.

Two numbers stand in an order and so do two texts. The six comparisons of such a
pair all look at that order (`answersAs_order`, `answersAs_orderTexts`), so that
exactly one of less, equal and greater holds. Exchanged values stand in the
swapped order (`orderNumbers_swap`, `orderTexts_swap`). Numbers need no law about
rounding here: equality and order choose between exact and rounded comparison by
the same test, and the test does not depend on which operand comes first.

Any other pair has no order. The order operators fail for it, and equality is
still a symmetric relation (`valuesEqual_comm`). Its recursion follows the lists
of the two values and ends in the comparison by form, which has one of its own.
-/
import HookRules.Proofs.Condition.Integers
import Mathlib.Data.String.Basic

namespace HookRules

-- ================================================================= the same form

theorem Number.same_comm (a b : Number) : a.same b = b.same a := by
  cases a with
  | int m =>
      cases b with
      | int n => exact Bool.beq_comm
      | float y => rfl
  | float x =>
      cases b with
      | int n => rfl
      | float y => exact x.eqv_comm y

namespace Json

mutual

/-- Being the same in the same form does not depend on which value comes
first. -/
theorem same_comm (v w : Json) : v.same w = w.same v := by
  cases v <;> cases w
  case bool.bool a b => exact Bool.beq_comm
  case num.num a b => exact a.same_comm b
  case str.str s t => exact Bool.beq_comm
  case arr.arr vs ws =>
    rw [same, same]
    exact sameItems_comm vs ws
  case obj.obj fs gs =>
    rw [same, same]
    exact sameFields_comm fs gs
  all_goals rfl

/-- Items are compared pair by pair, and each pair can be exchanged. -/
theorem sameItems_comm (vs ws : List Json) :
    sameItems vs ws = sameItems ws vs := by
  cases vs with
  | nil => cases ws <;> rfl
  | cons v vs =>
      cases ws with
      | nil => rfl
      | cons w ws =>
          rw [sameItems, sameItems, same_comm v w, sameItems_comm vs ws]

/-- Fields too, and their names as well. -/
theorem sameFields_comm (fs gs : List (String × Json)) :
    sameFields fs gs = sameFields gs fs := by
  cases fs with
  | nil => cases gs <;> rfl
  | cons f fs =>
      cases gs with
      | nil => rfl
      | cons g gs =>
          rw [sameFields, sameFields, same_comm f.2 g.2, sameFields_comm fs gs,
            Bool.beq_comm (a := f.1)]

end

end Json

namespace Condition

-- ====================================================================== equality

mutual

/-- Equality does not depend on which value comes first. -/
theorem valuesEqual_comm (a b : Json) : valuesEqual a b = valuesEqual b a := by
  cases a <;> cases b
  case num.num a b => exact numbersEqual_comm a b
  case arr.arr as bs =>
    rw [valuesEqual, valuesEqual]
    exact itemsEqual_comm as bs
  all_goals exact Json.same_comm _ _

/-- The items of a list are equal in either order of the lists. -/
theorem itemsEqual_comm (as bs : List Json) :
    itemsEqual as bs = itemsEqual bs as := by
  cases as with
  | nil => cases bs <;> rfl
  | cons a as =>
      cases bs with
      | nil => rfl
      | cons b bs =>
          rw [itemsEqual, itemsEqual, valuesEqual_comm a b,
            itemsEqual_comm as bs]

end

-- ==================================================================== the orders

/-- Exchanged numbers stand in the swapped order. -/
theorem orderNumbers_swap (a b : Number) :
    orderNumbers b a = (orderNumbers a b).swap := by
  unfold orderNumbers
  cases a.int64? <;> cases b.int64? <;> exact (Int.compare_swap ..).symm

/-- Exchanged texts stand in the swapped order. -/
theorem orderTexts_swap (s t : String) :
    orderTexts t s = (orderTexts s t).swap := by
  unfold orderTexts
  rcases lt_trichotomy s t with hlt | rfl | hgt
  · rw [if_pos hlt, if_neg (lt_asymm hlt), if_neg (ne_of_gt hlt)]
    rfl
  · rw [if_neg (lt_irrefl s), if_pos rfl]
    rfl
  · rw [if_pos hgt, if_neg (lt_asymm hgt), if_neg (ne_of_gt hgt)]
    rfl

/-- Texts are equal if neither comes before the other. -/
theorem textsEqual_eq_order (s t : String) :
    (s == t) = (orderTexts s t == .eq) := by
  unfold orderTexts
  rcases lt_trichotomy s t with hlt | rfl | hgt
  · rw [if_pos hlt, beq_false_of_ne (ne_of_lt hlt)]
    rfl
  · rw [if_neg (lt_irrefl s), if_pos rfl, beq_self_eq_true]
    rfl
  · rw [if_neg (lt_asymm hgt), if_neg (ne_of_gt hgt),
      beq_false_of_ne (ne_of_gt hgt)]
    rfl

/-- Every comparison of two texts looks at their order. -/
theorem answersAs_orderTexts (s t : String) :
    AnswersAs (orderTexts s t) (.str s) (.str t) where
  eq := by
    show Except.ok (s == t) = _
    rw [textsEqual_eq_order]
  ne := by
    show Except.ok (!(s == t)) = _
    rw [textsEqual_eq_order]
    rfl
  lt := rfl
  le := rfl
  gt := rfl
  ge := rfl
  mem before after := by
    show Except.ok ((before ++ .str t :: after).any fun v => _) = _
    have ht : valuesEqual (.str t) (.str s) = (orderTexts s t == .eq) := by
      rw [← textsEqual_eq_order, valuesEqual_comm]
      rfl
    rw [List.any_append, List.any_append, List.any_cons, ht, Bool.or_left_comm]

-- =================================================================== the answers

/-- Two values that have an order. -/
def Comparable (a b : Json) : Prop :=
  (kindOf a = .number ∧ kindOf b = .number)
    ∨ (kindOf a = .string ∧ kindOf b = .string)

/-- What the six comparisons answer to two values of which the first is less
than, equal to or greater than the second one. -/
structure Compares (less equal greater : Bool) (a b : Json) : Prop where
  lt : Operator.lt.apply a b = .ok less
  eq : Operator.eq.apply a b = .ok equal
  gt : Operator.gt.apply a b = .ok greater
  ne : Operator.ne.apply a b = .ok (!equal)
  le : Operator.le.apply a b = .ok (!greater)
  ge : Operator.ge.apply a b = .ok (!less)

/-- What answers as an ordering says compares as the ordering says: one of the
three, and the operators with equality as their unions. -/
theorem AnswersAs.compares {o : Ordering} {a b : Json} (h : AnswersAs o a b) :
    Compares (o == .lt) (o == .eq) (o == .gt) a b :=
  ⟨h.lt, h.eq, h.gt, h.ne, h.le, h.ge⟩

/-- Comparable values stand in an order, and exchanged ones in the swapped
order. -/
theorem Comparable.answersAs {a b : Json} (h : Comparable a b) :
    ∃ o : Ordering, AnswersAs o a b ∧ AnswersAs o.swap b a := by
  rcases h with ⟨ha, hb⟩ | ⟨ha, hb⟩
  · obtain ⟨m, rfl⟩ := kindOf_eq_number ha
    obtain ⟨n, rfl⟩ := kindOf_eq_number hb
    refine ⟨orderNumbers m n, answersAs_order m n, ?_⟩
    rw [← orderNumbers_swap]
    exact answersAs_order n m
  · obtain ⟨s, rfl⟩ := kindOf_eq_string ha
    obtain ⟨t, rfl⟩ := kindOf_eq_string hb
    refine ⟨orderTexts s t, answersAs_orderTexts s t, ?_⟩
    rw [← orderTexts_swap]
    exact answersAs_orderTexts t s

/-- Values that are not comparable have no order. -/
theorem order?_of_not_comparable {a b : Json} (h : ¬ Comparable a b) :
    order? a b = none := by
  cases a <;> cases b
  case num.num a b => exact absurd (Or.inl ⟨rfl, rfl⟩) h
  case str.str s t => exact absurd (Or.inr ⟨rfl, rfl⟩) h
  all_goals rfl

/-- Values without an order fail, and the failure names what they are. -/
theorem ordered_of_not_comparable {a b : Json} (h : ¬ Comparable a b)
    (accept : Ordering → Bool) :
    ordered a b accept = .error (.order (kindOf a) (kindOf b)) := by
  unfold ordered
  rw [order?_of_not_comparable h]

/-- No comparison of two numbers or of two texts fails. Exactly one of less,
equal and greater holds, the other three answers are the negations of these, and
for exchanged values less and greater are exchanged.

For any other two values the order operators fail, and equality and inequality
answer, in opposite ways, and in the same way for exchanged values. -/
theorem comparisons_of_two_values (a b : Json) :
    (Comparable a b →
      ∃ less equal greater : Bool, [less, equal, greater].count true = 1
        ∧ Compares less equal greater a b ∧ Compares greater equal less b a)
    ∧ (¬ Comparable a b →
      (∀ op ∈ [Operator.lt, .le, .gt, .ge],
        op.apply a b = .error (.order (kindOf a) (kindOf b)))
      ∧ ∃ equal : Bool,
        Operator.eq.apply a b = .ok equal ∧ Operator.eq.apply b a = .ok equal
        ∧ Operator.ne.apply a b = .ok (!equal)
        ∧ Operator.ne.apply b a = .ok (!equal)) := by
  constructor
  · intro h
    obtain ⟨o, hab, hba⟩ := h.answersAs
    refine ⟨o == .lt, o == .eq, o == .gt, ?_, hab.compares, ?_⟩
    · cases o <;> rfl
    · have hswapped := hba.compares
      cases o <;> exact hswapped
  · intro h
    constructor
    · intro op hop
      simp only [List.mem_cons, List.not_mem_nil, or_false] at hop
      rcases hop with rfl | rfl | rfl | rfl <;>
        exact ordered_of_not_comparable h _
    · refine ⟨valuesEqual a b, rfl, ?_, rfl, ?_⟩
      · rw [valuesEqual_comm a b]
        rfl
      · rw [valuesEqual_comm a b]
        rfl

/-- An integer and the fraction it is rounded to are equal and neither is less
than the other one. A list has no order with an object. -/
theorem comparisons_of_rounded_integer :
    let m := Json.ofInt 9007199254740993
    let x := Json.num (.float (.ofInt 9007199254740992))
    Comparable m x ∧ Compares false true false m x
      ∧ Compares false true false x m
      ∧ ¬ Comparable (.arr [m]) (.obj [])
      ∧ Operator.le.apply (.arr [m]) (.obj [])
        = .error (.order .list .object) := by
  intro m x
  have hkinds : Comparable m x := Or.inl ⟨rfl, rfl⟩
  obtain ⟨less, equal, greater, hone, hmx, hxm⟩ :=
    (comparisons_of_two_values m x).1 hkinds
  have hequal : Operator.eq.apply m x = .ok true := by decide +kernel
  have hnone : ¬ Comparable (.arr [m]) (.obj []) := by
    unfold Comparable kindOf
    decide
  have hfails :=
    ((comparisons_of_two_values (.arr [m]) (.obj [])).2 hnone).1
  obtain rfl : equal = true := Except.ok.inj (hmx.eq.symm.trans hequal)
  obtain ⟨rfl, rfl⟩ : less = false ∧ greater = false := by
    cases less <;> cases greater <;> first | exact ⟨rfl, rfl⟩ | cases hone
  exact ⟨hkinds, hmx, hxm, hnone, hfails .le (by decide)⟩

end Condition

end HookRules
