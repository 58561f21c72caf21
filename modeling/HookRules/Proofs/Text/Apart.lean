/-
Blanks are no letters and no numerals.

The letters and numerals beyond ASCII are told by tables of code point ranges,
the blanks by a test. That no character is both is a fact about the tables. A
search that finds a character ends at a range that holds it (`contains_mem`), and
no range of the tables holds a blank, which is checked line by line
(`Clear.line`): each line is opened to its characters first, since that is what
its words are cut from.
-/
import HookRules.Text.Blank
import HookRules.Text.Letter
import Mathlib

namespace HookRules

namespace Ranges

-- ================================================================== bisection

/-- The bisection ends with success only at a range around the character.
Whether it finds every one is not needed here. -/
theorem search_mem {pairs : Array (Nat × Nat)} {n fuel lo hi : Nat}
    (h : search pairs n fuel lo hi = true) :
    ∃ p ∈ pairs, p.1 ≤ n ∧ n ≤ p.2 := by
  induction fuel generalizing lo hi with
  | zero => cases h
  | succ fuel ih =>
      rw [search] at h
      split at h
      · dsimp only at h
        split at h
        · cases h
        · next first last hmid =>
            split at h
            · exact ih h
            · split at h
              · exact ih h
              · exact ⟨(first, last), Array.mem_of_getElem? hmid, by omega,
                  by omega⟩
      · cases h

/-- A character of a set lies in one of its ranges. -/
theorem contains_mem {r : Ranges} {c : Char} (h : r.contains c = true) :
    ∃ p ∈ r.pairs, p.1 ≤ c.toNat ∧ c.toNat ≤ p.2 :=
  search_mem h

end Ranges

namespace Text

-- ===================================================================== blanks

/-- The code points of the blanks. -/
def blankRanges : List (Nat × Nat) :=
  [(0x09, 0x0D), (0x20, 0x20), (0x85, 0x85), (0xA0, 0xA0), (0x1680, 0x1680),
   (0x2000, 0x200A), (0x2028, 0x2029), (0x202F, 0x202F), (0x205F, 0x205F),
   (0x3000, 0x3000)]

/-- The test for blanks, written out as ranges, so that they can be compared
with those of the tables. -/
theorem blankRanges_of_isBlank {c : Char} (h : isBlank c = true) :
    ∃ b ∈ blankRanges, b.1 ≤ c.toNat ∧ c.toNat ≤ b.2 := by
  simp only [isBlank, Bool.or_eq_true, Bool.and_eq_true, decide_eq_true_eq,
    beq_iff_eq] at h
  simp only [blankRanges, List.mem_cons, List.not_mem_nil, or_false,
    exists_eq_or_imp, exists_eq_left]
  omega

/-- Whether a word of a table is a range without blanks. -/
def isClear (word : List Char) : Bool :=
  let p := bounds word
  blankRanges.all fun b => p.2 < b.1 || b.2 < p.1

/-- No word of the lines is a range with a blank in it. -/
def Clear (lines : List String) : Prop := ∀ word ∈ words lines, isClear word = true

theorem Clear.nil : Clear [] := nofun

/-- A line is clear if its words are. Each line is a step of its own, since the
table as a whole is too long to be decided at once. -/
theorem Clear.line {cs : List Char} {lines : List String}
    (h : (cs.splitOn ' ').all isClear = true) (hrest : Clear lines) :
    Clear (String.ofList cs :: lines) := by
  intro word hword
  rw [words, List.flatMap_cons, String.toList_ofList, List.mem_append] at hword
  rcases hword with hword | hword
  · exact List.all_eq_true.mp h word hword
  · exact hrest word hword

/-- A set whose lines are clear has no blanks. -/
theorem Clear.contains {lines : List String} (h : Clear lines) {c : Char}
    (hblank : isBlank c = true) : (Ranges.ofText lines).contains c = false := by
  rw [Bool.eq_false_iff]
  intro hcontains
  obtain ⟨p, hp, hfirst, hlast⟩ := Ranges.contains_mem hcontains
  obtain ⟨word, hword, rfl⟩ : ∃ word ∈ words lines, bounds word = p := by
    simpa [Ranges.ofText] using hp
  obtain ⟨b, hb, hlow, hhigh⟩ := blankRanges_of_isBlank hblank
  have hclear := List.all_eq_true.mp (h word hword) b hb
  simp only [Bool.or_eq_true, decide_eq_true_eq] at hclear
  omega

/-- No range of the letters holds a blank. -/
theorem alphabetic_clear : ∃ lines, alphabetic = .ofText lines ∧ Clear lines := by
  refine ⟨_, rfl, ?_⟩
  repeat' refine Clear.line (by decide +kernel) ?_
  exact Clear.nil

/-- No range of the numerals holds one. -/
theorem numeric_clear : ∃ lines, numeric = .ofText lines ∧ Clear lines := by
  refine ⟨_, rfl, ?_⟩
  repeat' refine Clear.line (by decide +kernel) ?_
  exact Clear.nil

-- ============================================================ letters, numerals

/-- The blanks of ASCII are below the letters and the digits. Beyond ASCII the
tables are asked, and the bound says nothing. -/
theorem toNat_lt_of_isBlank {c : Char} (h : isBlank c = true)
    (hascii : c.toNat < 128) : c.toNat < 48 := by
  simp only [isBlank, Bool.or_eq_true, Bool.and_eq_true, decide_eq_true_eq,
    beq_iff_eq] at h
  omega

/-- Below the digit zero ASCII has neither letters nor digits, and above it no
blanks, so one bound tells the two apart. -/
theorem isAlphanum_of_lt {c : Char} (h : c.toNat < 48) : c.isAlphanum = false := by
  have hval : c.val.toNat < 48 := h
  simp only [Char.isAlphanum, Char.isAlpha, Char.isUpper, Char.isLower,
    Char.isDigit, Bool.or_eq_false_iff, Bool.and_eq_false_iff,
    decide_eq_false_iff_not, UInt32.le_iff_toNat_le, ge_iff_le]
  have hA : 'A'.val.toNat = 65 := rfl
  have ha : 'a'.val.toNat = 97 := rfl
  have h0 : '0'.val.toNat = 48 := rfl
  omega

/-- No blank is a letter or a numeral. -/
theorem isLetterOrNumber_of_isBlank {c : Char} (h : isBlank c = true) :
    isLetterOrNumber c = false := by
  unfold isLetterOrNumber
  split
  · next hascii => exact isAlphanum_of_lt (toNat_lt_of_isBlank h hascii)
  · obtain ⟨letters, hletters, hclear⟩ := alphabetic_clear
    obtain ⟨numerals, hnumerals, hclear'⟩ := numeric_clear
    rw [hletters, hnumerals, hclear.contains h, hclear'.contains h]
    rfl

end Text

end HookRules
