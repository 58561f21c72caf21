/-
The shortest digits of a number can be read.

The digits that are written for a number stand for a decimal that rounds to it, so
they are at most half a spacing above it (`gridPoint?_le`). That keeps them within
the limit of what is read for all numbers but the last four, and for these the
reading of their digits is finite all the same (`readable_shortest`).
-/
import HookRules.Number.Shortest
import HookRules.Proofs.Number.Reading

namespace HookRules

namespace Binary64

-- ================================================================== the grid

/-- The step of a grid of decimals in the smaller of its units and a quarter unit. -/
theorem gridStep (e : Int) (units : Nat) :
    (if 0 ≤ e then Nat.pow 10 e.toNat * units else units)
      = 10 ^ e.toNat * units := by
  split
  · rw [Nat.pow_eq]
  · next he =>
      rw [Int.toNat_of_nonpos (by omega), Nat.pow_zero, Nat.one_mul]

theorem gridQuarter (e : Int) :
    (if 0 ≤ e then 1 else Nat.pow 10 (-e).toNat) = 10 ^ (-e).toNat := by
  split
  · rw [Int.toNat_of_nonpos (by omega), Nat.pow_zero]
  · rw [Nat.pow_eq]

/-- A point of a grid is not zero, and it does not lie above the interval of the
number. -/
theorem gridPoint?_le {x : Binary64} {e : Int} {d : Nat}
    (h : x.gridPoint? e = some d) :
    0 < d ∧ d * (10 ^ e.toNat * (4 * unitsPerOne))
      ≤ (4 * x.units + 2 * 2 ^ x.shift) * 10 ^ (-e).toNat := by
  unfold gridPoint? interval at h
  dsimp -zeta only at h
  extract_lets step quarter isEven v above below inside q at h
  have hpoint : 0 < d ∧ inside d = true := by
    split at h
    · next hq hnext =>
        rw [Bool.and_eq_true, bne_iff_ne] at hq
        split at h
        · obtain rfl := Option.some.inj h
          exact ⟨Nat.pos_of_ne_zero hq.1, hq.2⟩
        · obtain rfl := Option.some.inj h
          exact ⟨Nat.succ_pos _, hnext⟩
    · next hq hnext =>
        rw [Bool.and_eq_true, bne_iff_ne] at hq
        obtain rfl := Option.some.inj h
        exact ⟨Nat.pos_of_ne_zero hq.1, hq.2⟩
    · next hq hnext =>
        obtain rfl := Option.some.inj h
        exact ⟨Nat.succ_pos _, hnext⟩
    · cases h
  obtain ⟨hpos, hinside⟩ := hpoint
  refine ⟨hpos, ?_⟩
  have hbelow : d * step ≤ (v + above) * quarter := by
    dsimp only [inside] at hinside
    split at hinside
    · exact of_decide_eq_true (Bool.and_eq_true_iff.mp hinside).2
    · exact (of_decide_eq_true (Bool.and_eq_true_iff.mp hinside).2).le
  have hstep : step = 10 ^ e.toNat * (4 * unitsPerOne) := gridStep e _
  have hquarter : quarter = 10 ^ (-e).toNat := gridQuarter e
  rwa [hstep, hquarter] at hbelow

/-- The shortest digits of a number are a point of some grid, or there are none. -/
theorem shortest_cases (x : Binary64) :
    x.shortest = (0, 0)
      ∨ ∃ d e, x.shortest = (d, e) ∧ x.gridPoint? e = some d := by
  unfold shortest
  split
  · exact Or.inl rfl
  · generalize hfound : List.findSome? _ (List.range 24) = found
    cases found with
    | none => exact Or.inl rfl
    | some place =>
        obtain ⟨i, -, hi⟩ := List.exists_of_findSome?_eq_some hfound
        obtain ⟨d, hd, rfl⟩ := Option.map_eq_some_iff.mp hi
        exact Or.inr ⟨_, _, rfl, hd⟩

-- ============================================================ within the limit

open Decimal (Bounded Readable limit scale?)

/-- The interval of a number does not go beyond the limit, except for the last four
numbers. -/
theorem interval_le {x : Binary64} (h : x.rank + 4 < 2047 * Nat.pow 2 52) :
    4 * x.units + 2 * 2 ^ x.shift ≤ limit * (4 * unitsPerOne) := by
  have hlimit : limit * (4 * unitsPerOne)
      = 4 * (2 ^ 53 - 4) * 2 ^ (unitExponent + topPlace) := by
    rw [← unitsPerOne_mul_top]
    unfold limit
    ring
  have hcases : x.shift < unitExponent + topPlace
      ∨ x.shift = unitExponent + topPlace ∧ x.significand ≤ 2 ^ 53 - 5 := by
    have hplaces : unitExponent + topPlace = 2045 := rfl
    unfold shift significand
    simp only [Nat.pow_eq] at h ⊢
    by_cases hbinade : x.rank / 2 ^ 52 = 2046
    · refine Or.inr ⟨by omega, ?_⟩
      rw [if_neg (by omega)]
      omega
    · exact Or.inl (by omega)
  have hsignificand := x.significand_le
  rw [hlimit]
  unfold units
  rw [Nat.pow_eq]
  generalize unitExponent + topPlace = k at hcases ⊢
  rcases hcases with hlt | ⟨hshift, hle⟩
  · have hdouble : 2 * 2 ^ x.shift ≤ 2 ^ k := by
      rw [← Nat.pow_succ']
      exact Nat.pow_le_pow_right Nat.two_pos hlt
    have hmul := Nat.mul_le_mul_right (2 ^ x.shift) hsignificand
    omega
  · rw [hshift]
    have hmul := Nat.mul_le_mul_right (2 ^ k) hle
    omega

theorem bounded_shortest {x : Binary64}
    (h : x.rank + 4 < 2047 * Nat.pow 2 52) :
    Bounded x.shortest.1 x.shortest.2 := by
  unfold Bounded
  rcases x.shortest_cases with hnone | ⟨d, e, hsome, hpoint⟩
  · rw [hnone, Nat.zero_mul]
    exact Nat.zero_le _
  · rw [hsome]
    dsimp only
    have hle := (gridPoint?_le hpoint).2.trans
      (Nat.mul_le_mul_right _ (interval_le h))
    have hpos : 0 < 4 * unitsPerOne := Nat.mul_pos (by decide) unitsPerOne_pos
    refine Nat.le_of_mul_le_mul_right (c := 4 * unitsPerOne) ?_ hpos
    calc d * 10 ^ e.toNat * (4 * unitsPerOne)
        = d * (10 ^ e.toNat * (4 * unitsPerOne)) := Nat.mul_assoc ..
      _ ≤ limit * (4 * unitsPerOne) * 10 ^ (-e).toNat := hle
      _ = limit * 10 ^ (-e).toNat * (4 * unitsPerOne) := Nat.mul_right_comm ..

/-- The digits of the last four numbers. -/
theorem readable_last (negative : Bool) (i : Fin 4) :
    let x := ofRank negative (2047 * Nat.pow 2 52 - 1 - i)
    x.shortest.1 < 2 ^ 64
      ∧ (scale? (ofInt x.shortest.1) x.shortest.2).isSome = true := by
  revert negative i
  decide +kernel

/-- The shortest digits of every number can be read. -/
theorem readable_shortest (x : Binary64) :
    Readable x.shortest.1 x.shortest.2 := by
  by_cases h : x.rank + 4 < 2047 * Nat.pow 2 52
  · exact Or.inl (bounded_shortest h)
  · obtain ⟨negative, rank, hrank⟩ := x
    dsimp only at h
    have hlast : 2047 * Nat.pow 2 52 - 1 - rank < 4 := by omega
    have hread := readable_last negative ⟨_, hlast⟩
    have hx : ofRank negative (2047 * Nat.pow 2 52 - 1
        - (2047 * Nat.pow 2 52 - 1 - rank)) = ⟨negative, rank, hrank⟩ := by
      unfold ofRank
      congr 1
      omega
    dsimp only at hread
    rw [hx] at hread
    exact Or.inr ⟨hread.1, Option.isSome_iff_exists.mp hread.2⟩

end Binary64

end HookRules
