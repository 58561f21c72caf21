/-
Printed numbers are numerals.

An integer is printed by its decimal digits, which start with a zero only if they are
a zero. A fraction is printed by its shortest digits, in one of four layouts
(`writesFraction_write`): whole digits with zeros behind them, digits with the point
inside, digits behind a point and zeros, and a first digit with an exponent. In the
first three the number of whole digits alone keeps the numeral within the limit of
what is read (`number?_of_point`); in the last the numeral stands for the very digits
and exponent that were printed, which can be read if they come from a number.
-/
import HookRules.Json.Printer
import HookRules.Proofs.Condition.Integers
import HookRules.Proofs.Json.Numeral
import HookRules.Proofs.Number.Shortest
import Mathlib

namespace HookRules

namespace Json

open Decimal (ofDigits Bounded Readable)

-- ================================================================ the digits

namespace Digits

/-- The decimal digits of a natural. -/
def ofNat (n : Nat) : Digits where
  chars := (Nat.repr n).toList
  isDigit := by
    intro c hc
    rw [Nat.toList_repr] at hc
    exact Nat.isDigit_of_mem_toDigits (by decide) (by decide) hc
  ne_nil := by
    rw [Nat.toList_repr]
    exact Nat.toDigits_ne_nil

theorem chars_ofNat (n : Nat) : (ofNat n).chars = Nat.toDigits 10 n :=
  Nat.toList_repr

theorem value_ofNat (n : Nat) : (ofNat n).value = n := by
  unfold value
  rw [chars_ofNat]
  exact Nat.ofDigitChars_ten_toDigits

/-- Digits, if there are any. -/
def ofChars? : (cs : List Char) → (∀ c ∈ cs, c.isDigit = true) → Option Digits
  | [], _ => none
  | c :: cs, h => some ⟨c :: cs, h, List.cons_ne_nil c cs⟩

end Digits

namespace Exponent

/-- An exponent as it is printed, with its sign always. -/
def ofInt (e : Int) : Exponent where
  capital := false
  sign := if 0 ≤ e then .plus else .minus
  digits := .ofNat e.natAbs

theorem value_ofInt (e : Int) : (ofInt e).value = e := by
  unfold value ofInt
  dsimp only
  rw [Digits.value_ofNat]
  by_cases h : 0 ≤ e
  · rw [if_pos h]
    exact Int.natAbs_of_nonneg h
  · rw [if_neg h]
    dsimp only
    omega

theorem chars_ofInt (e : Int) :
    (ofInt e).chars
      = ['e'] ++ (if 0 ≤ e then "+" else "-").toList
        ++ (Nat.repr e.natAbs).toList := by
  by_cases h : 0 ≤ e
  · simp only [chars, mark, ofInt, if_pos h]
    rfl
  · simp only [chars, mark, ofInt, if_neg h]
    rfl

end Exponent

theorem isDigit_zeros (n : Nat) :
    ∀ c ∈ List.replicate n '0', c.isDigit = true := by
  intro c hc
  rw [List.eq_of_mem_replicate hc]
  rfl

/-- The first digit of a natural is no zero, unless the natural is. -/
theorem head_toDigits {n : Nat} (h : n ≠ 0) :
    (Nat.toDigits 10 n).head? ≠ some '0' := by
  induction n using Nat.strongRecOn with
  | _ n ih =>
      rw [Nat.toDigits_eq_if (by decide)]
      split
      · next hlt =>
          interval_cases n
          all_goals first
            | exact absurd rfl h
            | decide
      · next hge =>
          rw [List.head?_append_of_ne_nil _ Nat.toDigits_ne_nil]
          exact ih (n / 10) (by omega) (by omega)

theorem toDigits_zero : Nat.toDigits 10 0 = ['0'] := rfl

/-- Digits behind a number come to less than the next number with as many zeros. -/
theorem ofDigitChars_lt {ds : List Char} (h : ∀ c ∈ ds, c.isDigit = true)
    (n : Nat) : Nat.ofDigitChars 10 ds n < (n + 1) * 10 ^ ds.length := by
  induction ds generalizing n with
  | nil => exact Nat.lt_of_lt_of_eq (Nat.lt_succ_self n) (Nat.mul_one _).symm
  | cons c ds ih =>
      obtain ⟨hc, hds⟩ := List.forall_mem_cons.mp h
      have hdigit : c.toNat ≤ 57 := by
        unfold Char.isDigit at hc
        exact (of_decide_eq_true (Bool.and_eq_true_iff.mp hc).2 : c.val ≤ 57)
      have hvalue : c.toNat - '0'.toNat ≤ 9 := Nat.sub_le_sub_right hdigit 48
      rw [Nat.ofDigitChars_cons, List.length_cons]
      calc Nat.ofDigitChars 10 ds (10 * n + (c.toNat - '0'.toNat))
          < (10 * n + (c.toNat - '0'.toNat) + 1) * 10 ^ ds.length := ih hds _
        _ ≤ ((n + 1) * 10) * 10 ^ ds.length :=
            Nat.mul_le_mul_right _ (by omega)
        _ = (n + 1) * 10 ^ (ds.length + 1) := by ring

/-- Digits come to less than the power of ten of their number. -/
theorem ofDigits_lt {ds : List Char} (h : ∀ c ∈ ds, c.isDigit = true) :
    ofDigits ds < 10 ^ ds.length := by
  have hlt := ofDigitChars_lt h 0
  rwa [Nat.zero_add, Nat.one_mul] at hlt

-- ============================================================= what can be read

/-- Digits and an exponent that leave few enough places before the point are
within the limit. -/
theorem bounded_of_places {n places : Nat} {e : Int} (h : n < 10 ^ places)
    (he : places + e ≤ 308) : Bounded n e := by
  unfold Bounded
  generalize hup : e.toNat = up
  generalize hdown : (-e).toNat = down
  have hplaces : places + up ≤ Decimal.topPower + down := by
    show places + up ≤ 308 + down
    omega
  calc n * 10 ^ up ≤ 10 ^ places * 10 ^ up := Nat.mul_le_mul_right _ h.le
    _ = 10 ^ (places + up) := (Nat.pow_add ..).symm
    _ ≤ 10 ^ (Decimal.topPower + down) := Nat.pow_le_pow_right (by decide) hplaces
    _ = 10 ^ Decimal.topPower * 10 ^ down := Nat.pow_add ..
    _ ≤ Decimal.limit * 10 ^ down :=
        Nat.mul_le_mul_right _ Decimal.pow_le_limit

namespace Numeral

/-- A numeral that is no integer, has few whole digits and stays within the limit is
read to a fraction. -/
theorem number?_of_readable {l : Numeral} (hinteger : ¬ l.IsInteger)
    (hwhole : l.whole.chars.length ≤ 16)
    (h : Readable (ofDigits (l.whole.chars ++ l.fractionDigits))
      ((l.exponent.map (·.value)).getD 0 - l.fractionDigits.length)) :
    ∃ x, l.number? = some (.float x) := by
  have hfits : ofDigits l.whole.chars < 2 ^ 64 :=
    calc ofDigits l.whole.chars < 10 ^ l.whole.chars.length :=
          ofDigits_lt l.whole.isDigit
      _ ≤ 10 ^ 16 := Nat.pow_le_pow_right (by decide) hwhole
      _ < 2 ^ 64 := by decide
  obtain ⟨x, hx⟩ := Decimal.stepwise?_of_readable l.negative hfits h
  refine ⟨x, ?_⟩
  unfold number?
  rw [if_neg hinteger, hx, Option.map_some]

/-- A numeral with a point, few whole digits and no exponent is read to a
fraction. -/
theorem number?_of_point {l : Numeral} {ds : Digits}
    (hfraction : l.fraction = some ds) (hexponent : l.exponent = none)
    (hwhole : l.whole.chars.length ≤ 16) :
    ∃ x, l.number? = some (.float x) := by
  refine number?_of_readable ?_ hwhole (Or.inl ?_)
  · intro hinteger
    rw [hinteger.1] at hfraction
    cases hfraction
  · have hdigits : ∀ c ∈ l.whole.chars ++ l.fractionDigits,
        c.isDigit = true := by
      unfold fractionDigits
      rw [hfraction]
      intro c hc
      rcases List.mem_append.mp hc with hc | hc
      · exact l.whole.isDigit c hc
      · exact ds.isDigit c hc
    refine bounded_of_places (ofDigits_lt hdigits) ?_
    rw [hexponent, List.length_append]
    show ((l.whole.chars.length + l.fractionDigits.length : Nat) : Int)
      + (0 - l.fractionDigits.length) ≤ 308
    omega

end Numeral

-- ================================================================== the layouts

/-- What some numeral has behind its sign that is read to a fraction. -/
def WritesFraction (negative : Bool) (cs : List Char) : Prop :=
  ∃ l : Numeral, l.chars = (if negative then ['-'] else []) ++ cs
    ∧ ∃ x, l.number? = some (.float x)

section Layouts

variable {d : Nat} (negative : Bool)

/-- The first digit of a natural is no zero, unless it is the only one. -/
theorem noLeadingZero_ofNat (d : Nat) (h : (Digits.ofNat d).chars.head? = some '0') :
    (Digits.ofNat d).chars = ['0'] := by
  rw [Digits.chars_ofNat] at h ⊢
  by_cases hd : d = 0
  · rw [hd, toDigits_zero]
  · exact absurd h (head_toDigits hd)

theorem head_ofNat (h : d ≠ 0) : (Digits.ofNat d).chars.head? ≠ some '0' := by
  rw [Digits.chars_ofNat]
  exact head_toDigits h

/-- Whole digits with zeros behind them, and a zero behind the point. -/
theorem writesFraction_zeros {n : Nat} (hzero : d = 0 → n = 0)
    (hlength : (Digits.ofNat d).chars.length + n ≤ 16) :
    WritesFraction negative
      ((Digits.ofNat d).chars ++ List.replicate n '0' ++ ['.', '0']) := by
  let l : Numeral := {
    negative
    whole := {
      chars := (Digits.ofNat d).chars ++ List.replicate n '0'
      isDigit := List.forall_mem_append.mpr
        ⟨(Digits.ofNat d).isDigit, isDigit_zeros n⟩
      ne_nil := List.append_ne_nil_of_left_ne_nil (Digits.ofNat d).ne_nil _ }
    noLeadingZero := by
      intro h
      dsimp only at h ⊢
      by_cases hd : d = 0
      · rw [hzero hd, List.replicate_zero, List.append_nil] at h ⊢
        exact noLeadingZero_ofNat d h
      · rw [List.head?_append_of_ne_nil _ (Digits.ofNat d).ne_nil] at h
        exact absurd h (head_ofNat hd)
    fraction := some ⟨['0'], isDigit_zeros 1, List.cons_ne_nil _ _⟩
    exponent := none }
  refine ⟨l, rfl, Numeral.number?_of_point rfl rfl ?_⟩
  show ((Digits.ofNat d).chars ++ List.replicate n '0').length ≤ 16
  rw [List.length_append, List.length_replicate]
  exact hlength

/-- Digits with the point inside. -/
theorem writesFraction_inside {n : Nat} (hd : d ≠ 0) (hn : 0 < n)
    (hfew : n ≤ 16) (hlength : n < (Digits.ofNat d).chars.length) :
    WritesFraction negative
      ((Digits.ofNat d).chars.take n ++ ['.'] ++ (Digits.ofNat d).chars.drop n) := by
  let l : Numeral := {
    negative
    whole := {
      chars := (Digits.ofNat d).chars.take n
      isDigit := fun c hc => (Digits.ofNat d).isDigit c (List.mem_of_mem_take hc)
      ne_nil := by
        rw [Ne, List.take_eq_nil_iff]
        exact not_or.mpr ⟨hn.ne', (Digits.ofNat d).ne_nil⟩ }
    noLeadingZero := by
      intro h
      rw [List.head?_take, if_neg hn.ne'] at h
      exact absurd h (head_ofNat hd)
    fraction := some {
      chars := (Digits.ofNat d).chars.drop n
      isDigit := fun c hc => (Digits.ofNat d).isDigit c (List.mem_of_mem_drop hc)
      ne_nil := by
        rw [Ne, List.drop_eq_nil_iff]
        exact Nat.not_le.mpr hlength }
    exponent := none }
  refine ⟨l, ?_, Numeral.number?_of_point rfl rfl ?_⟩
  · show _ ++ (_ ++ ('.' :: _ ++ [])) = _
    rw [List.append_nil, List.append_assoc, List.singleton_append]
  · exact (List.length_take_le _ _).trans hfew

/-- Digits behind a point and zeros. -/
theorem writesFraction_behind (n : Nat) :
    WritesFraction negative
      (['0', '.'] ++ List.replicate n '0' ++ (Digits.ofNat d).chars) := by
  let l : Numeral := {
    negative
    whole := ⟨['0'], isDigit_zeros 1, List.cons_ne_nil _ _⟩
    noLeadingZero := fun _ => rfl
    fraction := some {
      chars := List.replicate n '0' ++ (Digits.ofNat d).chars
      isDigit := List.forall_mem_append.mpr
        ⟨isDigit_zeros n, (Digits.ofNat d).isDigit⟩
      ne_nil := List.append_ne_nil_of_right_ne_nil _ (Digits.ofNat d).ne_nil }
    exponent := none }
  refine ⟨l, ?_, Numeral.number?_of_point rfl rfl ?_⟩
  · show _ ++ (['0'] ++ ('.' :: _ ++ [])) = _
    rw [List.append_nil]
    rfl
  · show 1 ≤ 16
    decide

/-- A first digit with an exponent, and a point between digits. -/
theorem writesFraction_marked {e : Int} (hd : d ≠ 0) (h : Readable d e) :
    WritesFraction negative
      ((Digits.ofNat d).chars.take 1
        ++ (match (Digits.ofNat d).chars.drop 1 with
          | [] => []
          | rest => '.' :: rest)
        ++ (Exponent.ofInt (e + (Digits.ofNat d).chars.length - 1)).chars) := by
  have hdigit := (Digits.ofNat d).isDigit
  have hvalue : ofDigits (Digits.ofNat d).chars = d := Digits.value_ofNat d
  have hhead := head_ofNat hd
  obtain ⟨c, cs, hchars⟩ := List.exists_cons_of_ne_nil (Digits.ofNat d).ne_nil
  rw [hchars] at hdigit hvalue hhead ⊢
  obtain ⟨hc, hcs⟩ := List.forall_mem_cons.mp hdigit
  generalize hfirst : e + (c :: cs).length - 1 = first
  let l : Numeral := {
    negative
    whole := ⟨[c], List.forall_mem_singleton.mpr hc, List.cons_ne_nil c []⟩
    noLeadingZero := fun hzero => absurd hzero hhead
    fraction := Digits.ofChars? cs hcs
    exponent := some (.ofInt first) }
  have hfraction : l.fractionDigits = cs := by
    cases cs <;> rfl
  refine ⟨l, ?_, Numeral.number?_of_readable nofun (by decide : 1 ≤ 16) ?_⟩
  · cases cs <;> rfl
  · rw [hfraction]
    show Readable (ofDigits (c :: cs)) ((Exponent.ofInt first).value - cs.length)
    rw [hvalue, Exponent.value_ofInt]
    rw [List.length_cons] at hfirst
    have hexponent : first - cs.length = e := by omega
    rwa [hexponent]

/-- The digits of a number are written as a fraction, wherever its point goes. -/
theorem writesFraction_write {e : Int} (hzero : d = 0 → e = 0) (h : Readable d e) :
    WritesFraction negative (Number.layout.write d e).toList := by
  have hpos := List.length_pos_of_ne_nil (Digits.ofNat d).ne_nil
  have hone : d = 0 → (Digits.ofNat d).chars.length = 1 := by
    rintro rfl
    rw [Digits.chars_ofNat, toDigits_zero]
    rfl
  have hchars : (Nat.repr d).toList = (Digits.ofNat d).chars := rfl
  unfold Binary64.Layout.write
  rw [hchars]
  simp only [Number.layout]
  by_cases hpositional : -5 ≤ e + (Digits.ofNat d).chars.length - 1
      ∧ e + (Digits.ofNat d).chars.length - 1 ≤ 15
  · rw [if_pos hpositional]
    by_cases he : 0 ≤ e
    · rw [if_pos he, String.toList_ofList]
      exact writesFraction_zeros negative (by omega) (by omega)
    · rw [if_neg he]
      by_cases hfirst : 0 ≤ e + (Digits.ofNat d).chars.length - 1
      · rw [if_pos hfirst, String.toList_ofList]
        exact writesFraction_inside negative (by omega) (by omega) (by omega)
          (by omega)
      · rw [if_neg hfirst, String.toList_ofList]
        exact writesFraction_behind negative _
  · rw [if_neg hpositional]
    have hd : d ≠ 0 := by
      intro hd
      have := hzero hd
      have := hone hd
      omega
    have hmarked := writesFraction_marked negative hd h
    rw [Exponent.chars_ofInt] at hmarked
    simp only [String.toList_append, String.toList_ofList, List.append_assoc]
      at hmarked ⊢
    exact hmarked

end Layouts

-- ============================================================ the printed numbers

/-- A printed fraction is a numeral that is read to a fraction. -/
theorem exists_numeral_float (x : Binary64) :
    ∃ l : Numeral, l.chars = (Number.float x).render.toList
      ∧ ∃ y, l.number? = some (.float y) := by
  have hzero : x.shortest.1 = 0 → x.shortest.2 = 0 := by
    intro hd
    rcases x.shortest_cases with hnone | ⟨d, e, hsome, hpoint⟩
    · rw [hnone]
    · rw [hsome] at hd
      exact absurd hd (Binary64.gridPoint?_le hpoint).1.ne'
  have hwrite := writesFraction_write x.negative hzero x.readable_shortest
  have hrender : (Number.float x).render.toList
      = (if x.negative then ['-'] else [])
        ++ (Number.layout.write x.shortest.1 x.shortest.2).toList := by
    unfold Number.render Binary64.render
    rw [String.toList_append]
    cases x.negative <;> rfl
  rw [hrender]
  exact hwrite

namespace Numeral

/-- An integer as it is printed. -/
def ofInt (n : Int) : Numeral where
  negative := decide (n < 0)
  whole := .ofNat n.natAbs
  noLeadingZero := noLeadingZero_ofNat n.natAbs
  fraction := none
  exponent := none

theorem chars_ofInt (n : Int) : (ofInt n).chars = (Number.int n).render.toList := by
  have hchars : (ofInt n).chars
      = (if decide (n < 0) then ['-'] else []) ++ (Nat.repr n.natAbs).toList := by
    unfold chars
    exact congrArg _ (List.append_nil _)
  rw [hchars]
  unfold Number.render
  dsimp only
  by_cases hn : n < 0
  · rw [decide_eq_true hn, if_pos rfl, if_pos hn, String.toList_append]
    rfl
  · rw [decide_eq_false hn, if_neg Bool.false_ne_true, if_neg hn, List.nil_append]

/-- An integer is read back, if it fits 64 bits. -/
theorem number?_ofInt {n : Int} (h : Condition.IsJsonInt n) :
    (ofInt n).number? = some (.int n) := by
  obtain ⟨hlow, hhigh⟩ := h
  have hvalue : (ofInt n).whole.value = n.natAbs := Digits.value_ofNat n.natAbs
  have hnegative : (ofInt n).negative = decide (n < 0) := rfl
  have hinteger : (ofInt n).IsInteger := by
    refine ⟨rfl, rfl, ?_⟩
    rw [hvalue, hnegative]
    by_cases hn : n < 0
    · rw [decide_eq_true hn, if_pos rfl, Nat.pow_eq]
      omega
    · rw [decide_eq_false hn, if_neg Bool.false_ne_true, Nat.pow_eq]
      omega
  unfold number?
  rw [if_pos hinteger, hvalue, hnegative]
  by_cases hn : n < 0
  · rw [decide_eq_true hn, if_pos rfl, Int.ofNat_natAbs_of_nonpos hn.le, neg_neg]
  · rw [decide_eq_false hn, if_neg Bool.false_ne_true,
      Int.natAbs_of_nonneg (Int.not_lt.mp hn)]

end Numeral

end Json

end HookRules
