/-
Comparing integers in conditions.

Equality, the four order operators and membership look at two numbers through
one and the same order (`answersAs_order`), so that they never contradict each
other. What remains is which order that is. Two integers that fit 64 bits with
a sign are in their own order. If one of them does not fit, the order is that
of the two nearest binary64 numbers. Rounding keeps the order and so never
turns it round, but it takes integers together: two different integers then
count as equal if they have the same nearest number
(`integers_in_order_of_nearest`). They are at most 2048 apart, and
`adjacent_large_integers_count_as_equal` shows two that are next to each other.
-/
import HookRules.Condition.Eval
import HookRules.Proofs.Number.Rounding

namespace HookRules

namespace Condition

-- ====================================================== answers to comparisons

/-- All comparisons of two values answer as for things that stand in an order.
Membership is that of the first value in a list that contains the second one,
among others. -/
structure AnswersAs (o : Ordering) (a b : Json) : Prop where
  eq : Operator.eq.apply a b = .ok (o == .eq)
  ne : Operator.ne.apply a b = .ok (o != .eq)
  lt : Operator.lt.apply a b = .ok (o == .lt)
  le : Operator.le.apply a b = .ok (o != .gt)
  gt : Operator.gt.apply a b = .ok (o == .gt)
  ge : Operator.ge.apply a b = .ok (o != .lt)
  mem : ∀ before after, Operator.mem.apply a (.arr (before ++ b :: after))
    = .ok (o == .eq || (before ++ after).any fun v => valuesEqual v a)

/-- The integers that a JSON number can be. -/
def IsJsonInt (n : Int) : Prop := -2 ^ 63 ≤ n ∧ n < 2 ^ 64

/-- Numbers are equal if neither comes before the other. -/
theorem numbersEqual_eq_order (a b : Number) :
    numbersEqual a b = (orderNumbers a b == .eq) := by
  have hcompare : ∀ m n : Int, (m == n) = (compare m n == .eq) := by
    intro m n
    rw [Bool.eq_iff_iff, beq_iff_eq, beq_iff_eq, Int.compare_eq_eq]
  unfold numbersEqual orderNumbers
  split
  · exact hcompare _ _
  · exact hcompare _ _

theorem numbersEqual_comm (a b : Number) :
    numbersEqual a b = numbersEqual b a := by
  unfold numbersEqual
  cases a.int64? with
  | none =>
      cases b.int64? with
      | none => exact Binary64.eqv_comm _ _
      | some n => exact Binary64.eqv_comm _ _
  | some m =>
      cases b.int64? with
      | none => exact Binary64.eqv_comm _ _
      | some n => exact Bool.beq_comm

/-- Every comparison of two numbers looks at their order. -/
theorem answersAs_order (a b : Number) :
    AnswersAs (orderNumbers a b) (.num a) (.num b) where
  eq := by
    show Except.ok (numbersEqual a b) = _
    rw [numbersEqual_eq_order]
  ne := by
    show Except.ok (!numbersEqual a b) = _
    rw [numbersEqual_eq_order]
    rfl
  lt := rfl
  le := rfl
  gt := rfl
  ge := rfl
  mem before after := by
    show Except.ok ((before ++ .num b :: after).any fun v => _) = _
    have hb : valuesEqual (.num b) (.num a) = (orderNumbers a b == .eq) := by
      rw [← numbersEqual_eq_order, numbersEqual_comm]
      rfl
    rw [List.any_append, List.any_append, List.any_cons, hb, Bool.or_left_comm]

-- ============================================================= the two orders

/-- An integer that fits 64 bits with a sign is found as one. -/
theorem int64?_of_fit {k : Int} (h : -2 ^ 63 ≤ k ∧ k < 2 ^ 63) :
    (Number.int k).int64? = some k := if_pos h

/-- Integers that fit 64 bits with a sign stand in their own order. -/
theorem orderNumbers_of_fit {m n : Int} (hm : -2 ^ 63 ≤ m ∧ m < 2 ^ 63)
    (hn : -2 ^ 63 ≤ n ∧ n < 2 ^ 63) :
    orderNumbers (.int m) (.int n) = compare m n := by
  unfold orderNumbers
  rw [int64?_of_fit hm, int64?_of_fit hn]

/-- If one of two integers does not fit, their nearest numbers decide. -/
theorem orderNumbers_of_not_fit {m n : Int}
    (h : ¬ (m < 2 ^ 63 ∧ n < 2 ^ 63)) :
    orderNumbers (.int m) (.int n)
      = (Binary64.ofInt m).order (Binary64.ofInt n) := by
  have hnone : ∀ {k : Int}, ¬ k < 2 ^ 63 → (Number.int k).int64? = none :=
    fun hk => if_neg fun hfit => hk hfit.2
  unfold orderNumbers
  by_cases hm : m < 2 ^ 63
  · rw [hnone fun hn => h ⟨hm, hn⟩]
    split
    · next heq => cases heq
    · rfl
  · rw [hnone hm]
    rfl

theorem IsJsonInt.natAbs_lt {n : Int} (h : IsJsonInt n) : n.natAbs < 2 ^ 64 := by
  obtain ⟨hlow, hhigh⟩ := h
  omega

/-- Integers whose nearest numbers differ are in the order of these. -/
theorem order_ofInt {m n : Int} (hm : IsJsonInt m) (hn : IsJsonInt n)
    (h : (Binary64.ofInt m).eqv (Binary64.ofInt n) = false) :
    (Binary64.ofInt m).order (Binary64.ofInt n) = compare m n := by
  have hne : (Binary64.ofInt m).scaled ≠ (Binary64.ofInt n).scaled := by
    intro heq
    rw [Binary64.eqv_eq_true_iff.mpr heq] at h
    cases h
  unfold Binary64.order
  rcases Int.lt_trichotomy m n with hlt | rfl | hgt
  · have hle := Binary64.scaled_ofInt_mono hm.natAbs_lt hn.natAbs_lt hlt.le
    rw [Int.compare_eq_lt.mpr hlt, Int.compare_eq_lt]
    omega
  · exact absurd rfl hne
  · have hle := Binary64.scaled_ofInt_mono hn.natAbs_lt hm.natAbs_lt hgt.le
    rw [Int.compare_eq_gt.mpr hgt, Int.compare_eq_gt]
    omega

/-- Integers with the same nearest number are close to each other. -/
theorem near_of_eqv {m n : Int} (hm : IsJsonInt m) (hn : IsJsonInt n)
    (h : (Binary64.ofInt m).eqv (Binary64.ofInt n) = true) :
    (m - n).natAbs ≤ 2048 := by
  obtain ⟨hmhigh, hmlow⟩ := Binary64.scaled_ofInt_near hm.natAbs_lt
  obtain ⟨hnhigh, hnlow⟩ := Binary64.scaled_ofInt_near hn.natAbs_lt
  rw [Binary64.eqv_eq_true_iff.mp h] at hmhigh hmlow
  have hpos : (0 : Int) < Binary64.unitsPerOne :=
    Int.natCast_pos.mpr Binary64.unitsPerOne_pos
  have hmn : m - 1024 ≤ n + 1024 :=
    Int.le_of_mul_le_mul_right (hmlow.trans hnhigh) hpos
  have hnm : n - 1024 ≤ m + 1024 :=
    Int.le_of_mul_le_mul_right (hnlow.trans hmhigh) hpos
  omega

-- ================================================================= the answers

/-- Two integers are compared exactly if both fit 64 bits with a sign or their
nearest binary64 numbers differ, as they do if the integers are more than 2048
apart. Any other two count as equal. -/
theorem integers_in_order_of_nearest {m n : Int} (hm : IsJsonInt m)
    (hn : IsJsonInt n) :
    AnswersAs
        (if (m < 2 ^ 63 ∧ n < 2 ^ 63)
            ∨ (Binary64.ofInt m).eqv (Binary64.ofInt n) = false
          then compare m n else .eq)
        (.ofInt m) (.ofInt n)
      ∧ ((Binary64.ofInt m).eqv (Binary64.ofInt n) = true →
        (m - n).natAbs ≤ 2048) := by
  refine ⟨?_, near_of_eqv hm hn⟩
  have hanswers := answersAs_order (.int m) (.int n)
  by_cases hfit : m < 2 ^ 63 ∧ n < 2 ^ 63
  · rw [orderNumbers_of_fit ⟨hm.1, hfit.1⟩ ⟨hn.1, hfit.2⟩] at hanswers
    rw [if_pos (Or.inl hfit)]
    exact hanswers
  · rw [orderNumbers_of_not_fit hfit] at hanswers
    cases heqv : (Binary64.ofInt m).eqv (Binary64.ofInt n) with
    | false =>
        rw [order_ofInt hm hn heqv] at hanswers
        rw [if_pos (Or.inr rfl)]
        exact hanswers
    | true =>
        have hsame : (Binary64.ofInt m).order (Binary64.ofInt n) = .eq :=
          Int.compare_eq_eq.mpr (Binary64.eqv_eq_true_iff.mp heqv)
        rw [hsame] at hanswers
        rw [if_neg (by simpa using hfit)]
        exact hanswers

/-- Around the largest integer that fits: the next one counts as equal to it, and
one that is 2050 above it does not. -/
theorem integers_at_the_signed_bound :
    IsJsonInt 9223372036854775807 ∧ IsJsonInt 9223372036854775808
      ∧ IsJsonInt 9223372036854777857
      ∧ AnswersAs .eq (.ofInt 9223372036854775807) (.ofInt 9223372036854775808)
      ∧ AnswersAs .lt (.ofInt 9223372036854775807)
          (.ofInt 9223372036854777857) := by
  have hlow : IsJsonInt 9223372036854775807 := by unfold IsJsonInt; decide
  have hmid : IsJsonInt 9223372036854775808 := by unfold IsJsonInt; decide
  have hhigh : IsJsonInt 9223372036854777857 := by unfold IsJsonInt; decide
  have heq := (integers_in_order_of_nearest hlow hmid).1
  have hlt := (integers_in_order_of_nearest hlow hhigh).1
  rw [if_neg (by decide +kernel)] at heq
  rw [if_pos (by decide +kernel)] at hlt
  exact ⟨hlow, hmid, hhigh, heq, hlt⟩

/-- Not every two integers are compared exactly: two neighbours above 2^63 count
as equal. -/
theorem adjacent_large_integers_count_as_equal :
    IsJsonInt 9223372036854775808 ∧ IsJsonInt 9223372036854775809
      ∧ AnswersAs .eq (.ofInt 9223372036854775808) (.ofInt 9223372036854775809)
      ∧ ¬ AnswersAs (compare (9223372036854775808 : Int) 9223372036854775809)
          (.ofInt 9223372036854775808) (.ofInt 9223372036854775809) := by
  have hsame : orderNumbers (.int 9223372036854775808)
      (.int 9223372036854775809) = .eq := by decide +kernel
  have hanswers := answersAs_order (.int 9223372036854775808)
    (.int 9223372036854775809)
  rw [hsame] at hanswers
  refine ⟨by unfold IsJsonInt; decide, by unfold IsJsonInt; decide,
    hanswers, ?_⟩
  intro hexact
  exact absurd (hanswers.lt.symm.trans hexact.lt) (by decide)

end Condition

end HookRules
