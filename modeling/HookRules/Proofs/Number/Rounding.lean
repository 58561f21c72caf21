/-
Rounding integers to binary64.

The number nearest to an integer is found by rank, and what matters outside is
its value. `nearestUnits` is that value, in units of 2^-1074, for a magnitude
that is a whole number of units: the multiple of the spacing at the magnitude
that is nearest to it. `units_of_rank` says that the rank which rounding gives
stands for it, the carry out of a full significand included, so the laws of
rounding are proved of `nearestUnits` and read off for integers.

# The laws

Rounding keeps the order (`scaled_ofInt_mono`), for two magnitudes of one
spacing because rounding to a multiple does, and for two spacings because every
result of the smaller one is at most the least result of the larger one. It
changes no integer of magnitude at most 2^53 (`scaled_ofInt_exact`), as the
spacing there divides one, and moves no 64-bit integer by more than 1024
(`scaled_ofInt_near`), half of the largest spacing among them.
-/
import HookRules.Number.Binary64
import Mathlib

namespace HookRules

namespace Binary64

-- ============================================================ whole multiples

/-- Rounding goes to one of the two neighbouring integers, and to neither over
more than a half. -/
theorem roundHalfEven_cases (num den : Nat) :
    (roundHalfEven num den = num / den ∧ 2 * (num % den) ≤ den)
      ∨ (roundHalfEven num den = num / den + 1 ∧ den ≤ 2 * (num % den)) := by
  unfold roundHalfEven
  dsimp only
  split
  · exact Or.inl ⟨rfl, by omega⟩
  · exact Or.inr ⟨rfl, by omega⟩

/-- Rounding keeps the order. -/
theorem roundHalfEven_mono {a b : Nat} (h : a ≤ b) (den : Nat) :
    roundHalfEven a den ≤ roundHalfEven b den := by
  have hquot : a / den ≤ b / den := Nat.div_le_div_right h
  rcases Nat.lt_or_ge (a / den) (b / den) with hlt | hge
  · rcases roundHalfEven_cases a den with ⟨ha, -⟩ | ⟨ha, -⟩
    · rcases roundHalfEven_cases b den with ⟨hb, -⟩ | ⟨hb, -⟩ <;> omega
    · rcases roundHalfEven_cases b den with ⟨hb, -⟩ | ⟨hb, -⟩ <;> omega
  · -- between the same two neighbours the remainders decide
    have hsame : a / den = b / den := Nat.le_antisymm hquot hge
    have ha := Nat.div_add_mod a den
    have hb := Nat.div_add_mod b den
    rw [hsame] at ha
    have hmod : a % den ≤ b % den := by omega
    unfold roundHalfEven
    dsimp only
    rw [hsame]
    split
    · split <;> omega
    · split <;> omega

/-- A whole multiple is not moved. -/
theorem roundHalfEven_mul {den : Nat} (hden : 0 < den) (k : Nat) :
    roundHalfEven (k * den) den = k := by
  unfold roundHalfEven
  dsimp only
  rw [Nat.mul_mod_left, Nat.mul_div_cancel _ hden]
  exact if_pos (Or.inl (by omega))

/-- Rounding moves nothing by more than half of the spacing. -/
theorem roundHalfEven_near (num : Nat) {den : Nat} (hden : 0 < den) :
    2 * (roundHalfEven num den * den) ≤ 2 * num + den
      ∧ 2 * num ≤ 2 * (roundHalfEven num den * den) + den := by
  have hdiv := Nat.div_add_mod num den
  rw [Nat.mul_comm] at hdiv
  have hlt := Nat.mod_lt num hden
  rcases roundHalfEven_cases num den with ⟨hr, hhalf⟩ | ⟨hr, hhalf⟩
  · rw [hr]
    omega
  · rw [hr, Nat.add_mul, Nat.one_mul]
    omega

-- ================================================================== magnitudes

/-- How often the unit is doubled to give the spacing at a magnitude. -/
def spacingAt (num : Nat) : Nat := Nat.log2 num - 52

/-- The whole number of units that a magnitude is rounded to. -/
def nearestUnits (num : Nat) : Nat :=
  roundHalfEven num (2 ^ spacingAt num) * 2 ^ spacingAt num

/-- A magnitude is less than 2^53 times its spacing. -/
theorem lt_spacingAt (num : Nat) : num < 2 ^ 53 * 2 ^ spacingAt num := by
  calc num < 2 ^ (num.log2 + 1) := Nat.lt_log2_self
    _ ≤ 2 ^ (53 + spacingAt num) :=
        Nat.pow_le_pow_right (by decide) (by unfold spacingAt; omega)
    _ = 2 ^ 53 * 2 ^ spacingAt num := Nat.pow_add ..

/-- Above the smallest spacing, a magnitude is at least 2^52 times its
spacing. -/
theorem spacingAt_le {num : Nat} (h : spacingAt num ≠ 0) :
    2 ^ 52 * 2 ^ spacingAt num ≤ num := by
  have hlog : 52 + spacingAt num = num.log2 := by
    unfold spacingAt at h ⊢
    omega
  have hnum : num ≠ 0 := by
    rintro rfl
    exact h rfl
  rw [← Nat.pow_add, hlog]
  exact Nat.log2_self_le hnum

/-- A magnitude below 2^53 times a spacing has at most that spacing. -/
theorem spacingAt_le_of_lt {num k : Nat} (h : num < 2 ^ 53 * 2 ^ k) :
    spacingAt num ≤ k := by
  by_contra hlt
  have hlow := spacingAt_le (show spacingAt num ≠ 0 by omega)
  have hpow : 2 ^ (53 + k) ≤ 2 ^ (52 + spacingAt num) :=
    Nat.pow_le_pow_right (by decide) (by omega)
  rw [Nat.pow_add, Nat.pow_add] at hpow
  omega

theorem spacingAt_mono {a b : Nat} (h : a ≤ b) : spacingAt a ≤ spacingAt b := by
  unfold spacingAt
  rw [Nat.log2_eq_log_two, Nat.log2_eq_log_two]
  exact Nat.sub_le_sub_right (Nat.log_mono_right h) 52

/-- The rounded significand is at most 2^53, and at least 2^52 above the
smallest spacing. -/
theorem significand_bounds (num : Nat) :
    roundHalfEven num (2 ^ spacingAt num) ≤ 2 ^ 53
      ∧ (spacingAt num = 0
        ∨ 2 ^ 52 ≤ roundHalfEven num (2 ^ spacingAt num)) := by
  have hpos : 0 < 2 ^ spacingAt num := Nat.two_pow_pos _
  constructor
  · rw [← roundHalfEven_mul hpos (2 ^ 53)]
    exact roundHalfEven_mono (lt_spacingAt num).le _
  · by_cases hs : spacingAt num = 0
    · exact Or.inl hs
    · refine Or.inr ?_
      rw [← roundHalfEven_mul hpos (2 ^ 52)]
      exact roundHalfEven_mono (spacingAt_le hs) _

/-- Rounding a magnitude keeps the order. -/
theorem nearestUnits_mono {a b : Nat} (h : a ≤ b) :
    nearestUnits a ≤ nearestUnits b := by
  rcases Nat.lt_or_eq_of_le (spacingAt_mono h) with hlt | heq
  · -- a full significand of the smaller spacing is the first of the next
    have hb : 2 ^ 52 ≤ roundHalfEven b (2 ^ spacingAt b) :=
      (significand_bounds b).2.resolve_left (by omega)
    calc nearestUnits a
        ≤ 2 ^ 53 * 2 ^ spacingAt a :=
          Nat.mul_le_mul_right _ (significand_bounds a).1
      _ = 2 ^ (53 + spacingAt a) := (Nat.pow_add ..).symm
      _ ≤ 2 ^ (52 + spacingAt b) := Nat.pow_le_pow_right (by decide) (by omega)
      _ = 2 ^ 52 * 2 ^ spacingAt b := Nat.pow_add ..
      _ ≤ nearestUnits b := Nat.mul_le_mul_right _ hb
  · unfold nearestUnits
    rw [heq]
    exact Nat.mul_le_mul_right _ (roundHalfEven_mono h _)

/-- A multiple of its own spacing is not moved. -/
theorem nearestUnits_of_dvd {num : Nat} (h : 2 ^ spacingAt num ∣ num) :
    nearestUnits num = num := by
  obtain ⟨k, hk⟩ := h
  have hmul : num = k * 2 ^ spacingAt num := by rw [Nat.mul_comm]; exact hk
  unfold nearestUnits
  have hround := roundHalfEven_mul (Nat.two_pow_pos (spacingAt num)) k
  rw [← hmul] at hround
  rw [hround]
  exact hmul.symm

/-- A magnitude is moved by at most half of its spacing. -/
theorem nearestUnits_near (num : Nat) :
    2 * nearestUnits num ≤ 2 * num + 2 ^ spacingAt num
      ∧ 2 * num ≤ 2 * nearestUnits num + 2 ^ spacingAt num :=
  roundHalfEven_near num (Nat.two_pow_pos _)

-- ==================================================================== the ranks

/-- The units of a rank that is given by a spacing and a significand. The
significand may be full: that is the first rank of the next spacing. -/
theorem units_of_place {x : Binary64} {s g : Nat}
    (hrank : x.rank = s * 2 ^ 52 + g) (hle : g ≤ 2 ^ 53)
    (hge : s = 0 ∨ 2 ^ 52 ≤ g) : x.units = g * 2 ^ s := by
  unfold units significand shift
  rw [hrank]
  simp only [Nat.pow_eq]
  rcases Nat.lt_or_ge g (2 ^ 52) with hsub | hnormal
  · -- a subnormal number
    have hs : s = 0 := by omega
    subst hs
    rw [if_pos (by omega)]
    have hshift : (0 * 2 ^ 52 + g) / 2 ^ 52 - 1 = 0 := by omega
    rw [hshift]
    omega
  · rw [if_neg (by omega)]
    rcases Nat.lt_or_ge g (2 ^ 53) with hlt | hfull
    · have hshift : (s * 2 ^ 52 + g) / 2 ^ 52 - 1 = s := by omega
      have hsig : 2 ^ 52 + (s * 2 ^ 52 + g) % 2 ^ 52 = g := by omega
      rw [hshift, hsig]
    · have hg : g = 2 ^ 53 := Nat.le_antisymm hle hfull
      have hshift : (s * 2 ^ 52 + g) / 2 ^ 52 - 1 = 1 + s := by omega
      have hsig : 2 ^ 52 + (s * 2 ^ 52 + g) % 2 ^ 52 = 2 ^ 52 := by omega
      have hplaces : 52 + (1 + s) = 53 + s := by omega
      rw [hshift, hsig, hg, ← Nat.pow_add, ← Nat.pow_add, hplaces]

/-- The rank of a magnitude has the magnitude's spacing and its rounded
significand. -/
theorem rankOfRatio_one (num : Nat) :
    rankOfRatio num 1
      = spacingAt num * 2 ^ 52 + roundHalfEven num (2 ^ spacingAt num) := by
  unfold rankOfRatio spacingAt
  simp only [Nat.pow_eq, Nat.div_one, Nat.one_mul]

/-- The rank of a magnitude stands for the magnitude's rounded value. -/
theorem units_of_rank {x : Binary64} {num : Nat}
    (h : x.rank = rankOfRatio num 1) : x.units = nearestUnits num := by
  obtain ⟨hle, hge⟩ := significand_bounds num
  exact units_of_place (h.trans (rankOfRatio_one num)) hle hge

-- ==================================================================== integers

/-- The magnitude of an integer in units. -/
def unitsOfInt (n : Int) : Nat := n.natAbs * unitsPerOne

theorem natCast_unitsOfInt (n : Int) :
    (unitsOfInt n : Int)
      = if n < 0 then -(n * unitsPerOne) else n * unitsPerOne := by
  unfold unitsOfInt
  rw [Int.natCast_mul]
  split
  · next hneg => rw [Int.ofNat_natAbs_of_nonpos hneg.le, Int.neg_mul]
  · next hpos => rw [Int.natAbs_of_nonneg (by omega)]

/-- The exponent of the unit. -/
def unitExponent : Nat := 1074

theorem unitsPerOne_eq : unitsPerOne = 2 ^ unitExponent := by
  -- the exponent is named first, so that no power of that size is evaluated
  suffices key : ∀ k, 1074 = k → unitsPerOne = 2 ^ k from key unitExponent rfl
  intro k hk
  unfold unitsPerOne
  rw [hk]
  exact Nat.pow_eq

theorem unitsPerOne_pos : 0 < unitsPerOne := by
  rw [unitsPerOne_eq]
  exact Nat.two_pow_pos _

/-- A 64-bit integer has a spacing of at most 2048. -/
theorem spacingAt_unitsOfInt {n : Int} (h : n.natAbs < 2 ^ 64) :
    spacingAt (unitsOfInt n) ≤ 11 + unitExponent := by
  refine spacingAt_le_of_lt ?_
  calc unitsOfInt n < 2 ^ 64 * unitsPerOne :=
        Nat.mul_lt_mul_of_pos_right h unitsPerOne_pos
    _ = 2 ^ 53 * 2 ^ (11 + unitExponent) := by
        rw [unitsPerOne_eq, ← Nat.pow_add, ← Nat.pow_add, ← Nat.add_assoc]

/-- The spacing at an integer of magnitude at most 2^53 divides it: one is a
multiple of the spacing below 2^53, and 2^53 itself has a spacing of two. -/
theorem spacing_dvd_unitsOfInt {n : Int} (h : n.natAbs ≤ 2 ^ 53) :
    2 ^ spacingAt (unitsOfInt n) ∣ unitsOfInt n := by
  rcases Nat.lt_or_eq_of_le h with hlt | heq
  · have hunits : unitsOfInt n < 2 ^ 53 * unitsPerOne :=
      Nat.mul_lt_mul_of_pos_right hlt unitsPerOne_pos
    rw [unitsPerOne_eq] at hunits
    refine Nat.dvd_mul_left_of_dvd ?_ _
    rw [unitsPerOne_eq]
    exact Nat.pow_dvd_pow 2 (spacingAt_le_of_lt hunits)
  · unfold unitsOfInt spacingAt
    rw [heq, unitsPerOne_eq, ← Nat.pow_add, Nat.log2_two_pow]
    exact Nat.pow_dvd_pow 2 (by omega)

/-- The number nearest to a 64-bit integer is finite, so its units are the
rounded ones. -/
theorem units_ofInt {n : Int} (h : n.natAbs < 2 ^ 64) :
    (ofInt n).units = nearestUnits (unitsOfInt n) := by
  refine units_of_rank ?_
  show min (rankOfRatio (unitsOfInt n) 1) _ = _
  refine Nat.min_eq_left ?_
  have hs := spacingAt_unitsOfInt h
  have hg := (significand_bounds (unitsOfInt n)).1
  have hexponent : unitExponent = 1074 := rfl
  rw [rankOfRatio_one]
  simp only [Nat.pow_eq]
  omega

/-- The value of the number nearest to a 64-bit integer. -/
theorem scaled_ofInt {n : Int} (h : n.natAbs < 2 ^ 64) :
    (ofInt n).scaled = if n < 0 then -(nearestUnits (unitsOfInt n) : Int)
      else nearestUnits (unitsOfInt n) := by
  unfold scaled
  rw [units_ofInt h]
  show (if decide (n < 0) = true then _ else _) = _
  simp only [decide_eq_true_eq]

/-- Rounding keeps the order of 64-bit integers. -/
theorem scaled_ofInt_mono {m n : Int} (hm : m.natAbs < 2 ^ 64)
    (hn : n.natAbs < 2 ^ 64) (h : m ≤ n) :
    (ofInt m).scaled ≤ (ofInt n).scaled := by
  have hmono : ∀ {a b : Int}, a.natAbs ≤ b.natAbs →
      nearestUnits (unitsOfInt a) ≤ nearestUnits (unitsOfInt b) :=
    fun hab => nearestUnits_mono (Nat.mul_le_mul_right _ hab)
  rw [scaled_ofInt hm, scaled_ofInt hn]
  rcases Int.lt_or_le m 0 with hmneg | hmpos
  · rw [if_pos hmneg]
    rcases Int.lt_or_le n 0 with hnneg | hnpos
    · have hle := hmono (show n.natAbs ≤ m.natAbs by omega)
      rw [if_pos hnneg]
      omega
    · rw [if_neg (by omega)]
      omega
  · have hle := hmono (show m.natAbs ≤ n.natAbs by omega)
    rw [if_neg (by omega), if_neg (by omega)]
    omega

/-- Integers of magnitude at most 2^53 are numbers of the format. -/
theorem scaled_ofInt_exact {n : Int} (h : n.natAbs ≤ 2 ^ 53) :
    (ofInt n).scaled = n * unitsPerOne := by
  have hexact : nearestUnits (unitsOfInt n) = unitsOfInt n :=
    nearestUnits_of_dvd (spacing_dvd_unitsOfInt h)
  rw [scaled_ofInt (by omega), hexact, natCast_unitsOfInt]
  split
  · exact Int.neg_neg _
  · rfl

/-- No 64-bit integer is moved by more than 1024. -/
theorem scaled_ofInt_near {n : Int} (h : n.natAbs < 2 ^ 64) :
    (ofInt n).scaled ≤ (n + 1024) * unitsPerOne
      ∧ (n - 1024) * unitsPerOne ≤ (ofInt n).scaled := by
  have hspacing : 2 ^ spacingAt (unitsOfInt n) ≤ 2048 * unitsPerOne := by
    rw [unitsPerOne_eq, show 2048 = 2 ^ 11 from rfl, ← Nat.pow_add]
    exact Nat.pow_le_pow_right (by decide) (spacingAt_unitsOfInt h)
  obtain ⟨habove, hbelow⟩ := nearestUnits_near (unitsOfInt n)
  rw [scaled_ofInt h, Int.add_mul, Int.sub_mul]
  have hunits := natCast_unitsOfInt n
  split
  · next hneg =>
      rw [if_pos hneg] at hunits
      omega
  · next hpos =>
      rw [if_neg hpos] at hunits
      omega

end Binary64

end HookRules
