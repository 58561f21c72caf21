/-
Decimal text that can be read.

The reading of JSON text takes a number in rounded steps, and each of them may grow
past the finite numbers. What counts is how large the number is that is written: one
that does not come near the end of the range is read (`stepwise?_of_readable`). The
bound leaves room for the two roundings on the way, of the digits and of the power of
ten, each of which adds at most one part in 2^53 (`nearestUnits_le`).

# The steps

A ratio that is no larger than the largest finite number has a finite rank
(`rankOfRatio_lt`), so a product within the bound is finite (`mul?_of_le_limit`), and
a quotient by a number that is at least one always is (`div?_of_ge_one`). Digits that
do not fit 64 bits are left out, and what is kept is no more than what was written
(`accumulate_le`).
-/
import HookRules.Number.Decimal
import HookRules.Proofs.Number.Rounding

namespace HookRules

namespace Binary64

-- ================================================================ finite ranks

/-- A ratio of at most 2^53 - 1 spacings has a rank in the binade of the spacing, or
below it. -/
theorem rankOfRatio_lt {num den k : Nat} (hden : 0 < den)
    (h : num ≤ (2 ^ 53 - 1) * (den * 2 ^ k)) :
    rankOfRatio num den < (k + 2) * 2 ^ 52 := by
  have hpos : ∀ s, 0 < den * 2 ^ s :=
    fun s => Nat.mul_pos hden (Nat.two_pow_pos s)
  have hquot : num / den < 2 ^ 53 * 2 ^ k := by
    refine Nat.div_lt_of_lt_mul ?_
    calc num ≤ (2 ^ 53 - 1) * (den * 2 ^ k) := h
      _ < 2 ^ 53 * (den * 2 ^ k) :=
          Nat.mul_lt_mul_of_pos_right (by decide) (hpos k)
      _ = den * (2 ^ 53 * 2 ^ k) := by ring
  have hrank : rankOfRatio num den
      = spacingAt (num / den) * 2 ^ 52
        + roundHalfEven num (den * 2 ^ spacingAt (num / den)) := by
    unfold rankOfRatio spacingAt
    simp only [Nat.pow_eq]
  rw [hrank]
  rcases Nat.lt_or_eq_of_le (spacingAt_le_of_lt hquot) with hlt | heq
  · -- a smaller spacing, at most with a full significand
    have hnum : num ≤ 2 ^ 53 * (den * 2 ^ spacingAt (num / den)) := by
      calc num ≤ den * (num / den + 1) := (Nat.lt_mul_div_succ num hden).le
        _ ≤ den * (2 ^ 53 * 2 ^ spacingAt (num / den)) :=
            Nat.mul_le_mul_left _ (lt_spacingAt (num / den))
        _ = 2 ^ 53 * (den * 2 ^ spacingAt (num / den)) := by ring
    have hround := roundHalfEven_mono hnum (den * 2 ^ spacingAt (num / den))
    rw [roundHalfEven_mul (hpos _)] at hround
    omega
  · have hround := roundHalfEven_mono h (den * 2 ^ k)
    rw [roundHalfEven_mul (hpos k)] at hround
    rw [heq]
    omega

/-- The exponent of the largest spacing. -/
def topPlace : Nat := 971

/-- The largest finite number in units. -/
def maxUnits : Nat := (2 ^ 53 - 1) * (unitsPerOne * 2 ^ topPlace)

theorem unitsPerOne_mul_top :
    unitsPerOne * 2 ^ topPlace = 2 ^ (unitExponent + topPlace) := by
  rw [unitsPerOne_eq, ← Nat.pow_add]

/-- The ranks end with the binade of the largest spacing. -/
theorem top_rank : (unitExponent + topPlace + 2) * 2 ^ 52 = 2047 * Nat.pow 2 52 :=
  rfl

/-- A ratio that is no larger than the largest finite number is finite. -/
theorem ofRatio?_of_le {num den : Nat} (hden : 0 < den)
    (h : num ≤ den * maxUnits) (negative : Bool) :
    ∃ y, ofRatio? negative num den = some y := by
  have hrank : rankOfRatio num den < 2047 * Nat.pow 2 52 := by
    rw [← top_rank]
    refine rankOfRatio_lt hden (h.trans_eq ?_)
    unfold maxUnits
    rw [unitsPerOne_mul_top]
    ring
  exact ⟨_, dif_pos hrank⟩

theorem significand_le (x : Binary64) : x.significand ≤ 2 ^ 53 - 1 := by
  have hrank := x.rank_lt
  unfold significand
  simp only [Nat.pow_eq]
  split <;> omega

theorem shift_le (x : Binary64) : x.shift ≤ unitExponent + topPlace := by
  have hrank := x.rank_lt
  have hplaces : unitExponent + topPlace = 2045 := rfl
  unfold shift
  simp only [Nat.pow_eq] at hrank ⊢
  omega

/-- Every number is finite. -/
theorem units_le_maxUnits (x : Binary64) : x.units ≤ maxUnits := by
  have hshift := x.shift_le
  unfold units maxUnits
  rw [unitsPerOne_mul_top, Nat.pow_eq]
  generalize unitExponent + topPlace = k at hshift ⊢
  exact Nat.mul_le_mul x.significand_le
    (Nat.pow_le_pow_right Nat.two_pos hshift)

-- ==================================================================== integers

/-- Rounding adds at most one part in 2^53. -/
theorem nearestUnits_le (num : Nat) :
    2 ^ 53 * nearestUnits num ≤ (2 ^ 53 + 1) * num := by
  by_cases hs : spacingAt num = 0
  · have hdvd : 2 ^ spacingAt num ∣ num := by
      rw [hs]
      exact Nat.one_dvd num
    rw [nearestUnits_of_dvd hdvd]
    omega
  · have hnear := (nearestUnits_near num).1
    have hspacing := spacingAt_le hs
    omega

/-- The units of the number nearest to an integer within the finite numbers. -/
theorem units_ofInt_of_le {n : Int} (h : unitsOfInt n ≤ maxUnits) :
    (ofInt n).units = nearestUnits (unitsOfInt n) := by
  refine units_of_rank ?_
  show min (rankOfRatio (unitsOfInt n) 1) _ = _
  refine Nat.min_eq_left ?_
  have hrank : rankOfRatio (unitsOfInt n) 1
      < (unitExponent + topPlace + 2) * 2 ^ 52 := by
    refine rankOfRatio_lt Nat.one_pos (h.trans_eq ?_)
    unfold maxUnits
    rw [unitsPerOne_mul_top, Nat.one_mul]
  rw [top_rank] at hrank
  omega

-- ================================================================= operations

/-- A quotient by a number that is at least one is finite. -/
theorem div?_of_ge_one (x : Binary64) {y : Binary64}
    (hy : unitsPerOne ≤ y.units) : ∃ z, x.div? y = some z := by
  have hpos : 0 < y.units := unitsPerOne_pos.trans_le hy
  have hzero : ¬ y.isZero = true := by
    intro hzero
    have hrank : y.rank = 0 := beq_iff_eq.mp hzero
    have hunits : y.units = 0 := by
      unfold units significand
      rw [hrank, if_pos (Nat.two_pow_pos 52)]
      exact Nat.zero_mul _
    omega
  unfold div?
  rw [if_neg hzero]
  refine ofRatio?_of_le hpos ?_ _
  rw [Nat.mul_comm y.units]
  exact Nat.mul_le_mul x.units_le_maxUnits hy

end Binary64

namespace Decimal

open Binary64 (unitsPerOne maxUnits topPlace)

/-- What a number that is written may come to. The largest finite number is
2^53 - 1 times the same spacing. -/
def limit : Nat := (2 ^ 53 - 4) * 2 ^ topPlace

theorem limit_mul_unitsPerOne : limit * unitsPerOne ≤ maxUnits := by
  unfold limit maxUnits
  rw [Nat.mul_assoc, Nat.mul_comm (2 ^ topPlace)]
  exact Nat.mul_le_mul_right _ (by decide)

theorem unitsOfInt_natCast (n : Nat) :
    Binary64.unitsOfInt n = n * unitsPerOne := by
  unfold Binary64.unitsOfInt
  rw [Int.natAbs_natCast]

/-- A natural within the limit is rounded up by one part in 2^53 at most. -/
theorem units_ofInt_le {n : Nat} (h : n ≤ limit) :
    2 ^ 53 * (Binary64.ofInt n).units ≤ (2 ^ 53 + 1) * (n * unitsPerOne) := by
  have hmax : Binary64.unitsOfInt n ≤ maxUnits := by
    rw [unitsOfInt_natCast]
    exact (Nat.mul_le_mul_right _ h).trans limit_mul_unitsPerOne
  rw [Binary64.units_ofInt_of_le hmax, ← unitsOfInt_natCast]
  exact Binary64.nearestUnits_le _

/-- The product of a natural and a power of ten, both rounded, is finite if their
product is within the limit. -/
theorem mul?_of_le_limit {m n : Nat} (hm : 0 < m) (hn : 0 < n)
    (h : m * n ≤ limit) :
    ∃ z, (Binary64.ofInt m).mul? (Binary64.ofInt n) = some z := by
  have hfirst := units_ofInt_le ((Nat.le_mul_of_pos_right m hn).trans h)
  have hsecond := units_ofInt_le ((Nat.le_mul_of_pos_left n hm).trans h)
  refine Binary64.ofRatio?_of_le Binary64.unitsPerOne_pos ?_ _
  generalize (Binary64.ofInt m).units = a at hfirst ⊢
  generalize (Binary64.ofInt n).units = b at hsecond ⊢
  unfold limit at h
  unfold maxUnits
  generalize 2 ^ topPlace = top at h ⊢
  generalize unitsPerOne = u at hfirst hsecond ⊢
  refine Nat.le_of_mul_le_mul_left (c := 2 ^ 106) ?_ (by decide)
  calc 2 ^ 106 * (a * b) = 2 ^ 53 * a * (2 ^ 53 * b) := by ring
    _ ≤ (2 ^ 53 + 1) * (m * u) * ((2 ^ 53 + 1) * (n * u)) :=
        Nat.mul_le_mul hfirst hsecond
    _ = (2 ^ 53 + 1) ^ 2 * (m * n) * (u * u) := by ring
    _ ≤ (2 ^ 53 + 1) ^ 2 * ((2 ^ 53 - 4) * top) * (u * u) :=
        Nat.mul_le_mul_right _ (Nat.mul_le_mul_left _ h)
    _ = (2 ^ 53 + 1) ^ 2 * (2 ^ 53 - 4) * (top * (u * u)) := by ring
    _ ≤ 2 ^ 106 * (2 ^ 53 - 1) * (top * (u * u)) :=
        Nat.mul_le_mul_right _ (by decide)
    _ = 2 ^ 106 * (u * ((2 ^ 53 - 1) * (u * top))) := by ring

-- ============================================================ powers of ten

/-- The exponent of the largest power of ten that is used. -/
def topPower : Nat := 308

theorem pow_le_limit : 10 ^ topPower ≤ limit := by decide +kernel

theorem limit_lt_pow : limit < 10 ^ (topPower + 1) := by decide +kernel

/-- The powers of ten that are used are at least one when they are rounded. -/
theorem unitsPerOne_le_powerOfTen {n : Nat} (h : n ≤ topPower) :
    unitsPerOne ≤ (powerOfTen n).units := by
  have hpow : 10 ^ n ≤ limit :=
    (Nat.pow_le_pow_right (by decide) h).trans pow_le_limit
  have hmax : Binary64.unitsOfInt ((10 ^ n : Nat) : Int) ≤ maxUnits := by
    rw [unitsOfInt_natCast]
    exact (Nat.mul_le_mul_right _ hpow).trans limit_mul_unitsPerOne
  have hone : Binary64.nearestUnits (Binary64.unitsOfInt ((1 : Nat) : Int))
      = unitsPerOne := by
    rw [Binary64.nearestUnits_of_dvd
      (Binary64.spacing_dvd_unitsOfInt (by decide)), unitsOfInt_natCast,
      Nat.one_mul]
  unfold powerOfTen
  rw [Nat.pow_eq, Binary64.units_ofInt_of_le hmax]
  refine hone.symm.le.trans (Binary64.nearestUnits_mono ?_)
  rw [unitsOfInt_natCast, unitsOfInt_natCast]
  exact Nat.mul_le_mul_right _ (Nat.pow_pos (by decide))

/-- Divisions by powers of ten never fail. -/
theorem divided (x : Binary64) {places : List Nat}
    (h : ∀ n ∈ places, n ≤ topPower) :
    ∃ y, places.foldlM (fun y n => y.div? (powerOfTen n)) x = some y := by
  induction places generalizing x with
  | nil => exact ⟨x, rfl⟩
  | cons n places ih =>
      obtain ⟨hn, hplaces⟩ := List.forall_mem_cons.mp h
      obtain ⟨y, hy⟩ := x.div?_of_ge_one (unitsPerOne_le_powerOfTen hn)
      rw [List.foldlM_cons, hy]
      exact ih y hplaces

theorem divisions_le (places : Nat) :
    ∀ n ∈ divisions places, n ≤ topPower := by
  intro n hn
  show n ≤ 308
  unfold divisions at hn
  rcases List.mem_append.mp hn with hn | hn
  · exact (List.eq_of_mem_replicate hn).le
  · rw [List.mem_singleton.mp hn]
    omega

/-- A natural is scaled to any power of ten that keeps it within the limit. -/
theorem scale?_of_le_limit {n : Nat} {e : Int}
    (h : 0 ≤ e → n * 10 ^ e.toNat ≤ limit) :
    ∃ y, scale? (Binary64.ofInt n) e = some y := by
  unfold scale?
  by_cases hzero : (Binary64.ofInt n).isZero = true
  · exact ⟨_, if_pos hzero⟩
  · rw [if_neg hzero]
    by_cases he : 0 ≤ e
    · have hn : 0 < n := by
        refine Nat.pos_of_ne_zero ?_
        rintro rfl
        exact hzero (by decide +kernel)
      have hpow : 10 ^ e.toNat ≤ limit :=
        (Nat.le_mul_of_pos_left _ hn).trans (h he)
      have hsmall : e.toNat ≤ 308 := by
        by_contra hlarge
        have hge : 10 ^ (topPower + 1) ≤ 10 ^ e.toNat :=
          Nat.pow_le_pow_right (by decide) (Nat.lt_of_not_le hlarge)
        exact absurd limit_lt_pow (Nat.not_lt.mpr (hge.trans hpow))
      rw [if_pos he, if_neg (by omega)]
      unfold powerOfTen
      rw [Nat.pow_eq]
      exact mul?_of_le_limit hn (Nat.pow_pos (by decide)) (h he)
    · rw [if_neg he]
      exact divided _ (divisions_le _)

-- =================================================================== the digits

theorem ofDigits_eq (ds : List Char) : ofDigits ds = Nat.ofDigitChars 10 ds 0 :=
  rfl

/-- What is kept of digits fits 64 bits, and it is no more than the digits say. -/
theorem accumulate_le {n : Nat} (hn : n < 2 ^ 64) (ds : List Char) :
    (accumulate n ds).1 < 2 ^ 64
      ∧ (accumulate n ds).2.1 + (accumulate n ds).2.2 = ds.length
      ∧ (accumulate n ds).1 * 10 ^ (accumulate n ds).2.2
        ≤ Nat.ofDigitChars 10 ds n := by
  induction ds generalizing n with
  | nil => exact ⟨hn, rfl, (Nat.mul_one n).le⟩
  | cons c ds ih =>
      rw [accumulate]
      dsimp only
      simp only [Nat.pow_eq]
      by_cases hnext : 10 * n + (c.toNat - '0'.toNat) < 2 ^ 64
      · rw [if_pos hnext]
        obtain ⟨hfits, hlength, hle⟩ := ih hnext
        refine ⟨hfits, ?_, ?_⟩
        · rw [List.length_cons, ← hlength]
          exact Nat.add_right_comm _ _ _
        · rw [Nat.ofDigitChars_cons]
          exact hle
      · rw [if_neg hnext]
        refine ⟨hn, Nat.zero_add _, ?_⟩
        rw [Nat.ofDigitChars_cons, Nat.ofDigitChars_eq_ofDigitChars_zero]
        dsimp only
        calc n * 10 ^ (ds.length + 1) = 10 ^ ds.length * (10 * n) := by ring
          _ ≤ 10 ^ ds.length * (10 * n + (c.toNat - '0'.toNat)) :=
              Nat.mul_le_mul_left _ (Nat.le_add_right _ _)
          _ ≤ _ := Nat.le_add_right _ _

/-- Digits that fit 64 bits are kept. -/
theorem accumulate_of_lt {n : Nat} {ds : List Char}
    (h : Nat.ofDigitChars 10 ds n < 2 ^ 64) :
    accumulate n ds = (Nat.ofDigitChars 10 ds n, ds.length, 0) := by
  induction ds generalizing n with
  | nil => rfl
  | cons c ds ih =>
      rw [Nat.ofDigitChars_cons] at h ⊢
      have hnext : 10 * n + (c.toNat - '0'.toNat) < 2 ^ 64 := by
        refine lt_of_le_of_lt ?_ h
        rw [Nat.ofDigitChars_eq_ofDigitChars_zero]
        exact (Nat.le_mul_of_pos_left _ (Nat.pow_pos (by decide))).trans
          (Nat.le_add_right _ _)
      rw [accumulate]
      dsimp only
      simp only [Nat.pow_eq]
      rw [if_pos hnext, ih h]
      rfl

-- ================================================================== the reading

/-- A number that is written by digits and an exponent stays within the limit. -/
def Bounded (digits : Nat) (exponent : Int) : Prop :=
  digits * 10 ^ exponent.toNat ≤ limit * 10 ^ (-exponent).toNat

/-- A number that can be read: it stays within the limit, or the reading of its
digits, which fit 64 bits, turns out to be finite all the same. -/
def Readable (digits : Nat) (exponent : Int) : Prop :=
  Bounded digits exponent
    ∨ digits < 2 ^ 64 ∧ ∃ y, scale? (Binary64.ofInt digits) exponent = some y

/-- Digits that are left out count as factors of ten, so what is kept of a number
within the limit is within the limit. -/
theorem bounded_of_kept {digits kept taken left length : Nat} {exponent : Int}
    (h : Bounded digits (exponent - length)) (hlength : taken + left = length)
    (hle : kept * 10 ^ left ≤ digits)
    (he : 0 ≤ ((0 : Nat) : Int) - taken + exponent) :
    kept * 10 ^ (((0 : Nat) : Int) - taken + exponent).toNat ≤ limit := by
  unfold Bounded at h
  generalize hup : (exponent - length).toNat = up at h
  generalize hdown : (-(exponent - length)).toNat = down at h
  generalize hnet : (((0 : Nat) : Int) - taken + exponent).toNat = net
  have hpowers : left + up = net + down := by omega
  refine Nat.le_of_mul_le_mul_right (c := 10 ^ down) ?_ (Nat.pow_pos (by decide))
  calc kept * 10 ^ net * 10 ^ down = kept * 10 ^ (net + down) := by ring
    _ = kept * 10 ^ left * 10 ^ up := by rw [← hpowers]; ring
    _ ≤ digits * 10 ^ up := Nat.mul_le_mul_right _ hle
    _ ≤ limit * 10 ^ down := h

/-- A readable number is read if its whole digits fit 64 bits. -/
theorem stepwise?_of_readable (negative : Bool) {whole fraction : List Char}
    {exponent : Int} (hwhole : ofDigits whole < 2 ^ 64)
    (h : Readable (ofDigits (whole ++ fraction))
      (exponent - fraction.length)) :
    ∃ y, stepwise? negative whole fraction exponent = some y := by
  have hwhole' : Nat.ofDigitChars 10 whole 0 < 2 ^ 64 := hwhole
  unfold stepwise?
  rw [accumulate_of_lt hwhole']
  dsimp only
  have hdigits : ofDigits (whole ++ fraction)
      = Nat.ofDigitChars 10 fraction (Nat.ofDigitChars 10 whole 0) := by
    rw [ofDigits_eq, Nat.ofDigitChars_append]
  rw [hdigits] at h
  suffices key : ∃ y, scale?
      (Binary64.ofInt ((accumulate (Nat.ofDigitChars 10 whole 0) fraction).1 : Nat))
      (((0 : Nat) : Int) - (accumulate (Nat.ofDigitChars 10 whole 0) fraction).2.1
        + exponent) = some y by
    obtain ⟨y, hy⟩ := key
    rw [hy]
    exact ⟨_, rfl⟩
  rcases h with hbounded | ⟨hfits, y, hy⟩
  · obtain ⟨-, hlength, hle⟩ := accumulate_le hwhole' fraction
    exact scale?_of_le_limit (bounded_of_kept hbounded hlength hle)
  · rw [accumulate_of_lt hfits]
    refine ⟨y, ?_⟩
    dsimp only
    rw [← hy]
    congr 1
    omega

-- ================================================================= conditions

/-- Digits with some places behind the point have a nearest number if what they
come to is within the limit. -/
theorem nearest?_of_le_limit {digits places : Nat}
    (h : digits ≤ 10 ^ places * limit) :
    ∃ x, nearest? false digits (-(places : Int)) = some x := by
  have hunits : digits * unitsPerOne ≤ 10 ^ places * maxUnits := by
    calc digits * unitsPerOne ≤ 10 ^ places * limit * unitsPerOne :=
          Nat.mul_le_mul_right _ h
      _ = 10 ^ places * (limit * unitsPerOne) := Nat.mul_assoc _ _ _
      _ ≤ 10 ^ places * maxUnits := Nat.mul_le_mul_left _ limit_mul_unitsPerOne
  unfold nearest?
  by_cases hzero : digits = 0
  · rw [if_pos hzero]
    exact ⟨_, rfl⟩
  rw [if_neg hzero]
  by_cases hplaces : places = 0
  · subst hplaces
    rw [if_pos (by decide), if_neg (by decide)]
    refine Binary64.ofRatio?_of_le Nat.one_pos ?_ _
    simpa using hunits
  · rw [if_neg (by omega)]
    dsimp only
    split
    · exact ⟨_, rfl⟩
    · rw [Int.neg_neg, Int.toNat_natCast, Nat.pow_eq]
      exact Binary64.ofRatio?_of_le (Nat.pow_pos (by decide)) hunits _
end Decimal

end HookRules
