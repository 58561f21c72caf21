/-
Numbers in JSON text.

A number is written as a sign, whole digits, and a fraction and an exponent if it
has them (`Numeral`). Which number that is follows from the parts
(`Numeral.number?`): an integer if it is written as one and fits 64 bits, else a
fraction, if it is not beyond the fractions. The reader finds the parts one after
the other. Each of them ends where its digits end, so it is the first character
behind that has to be looked at: `number?_chars` needs that nothing follows that a
number could go on with.
-/
import HookRules.Json.Token
import Mathlib.Data.String.Basic
import Mathlib.Data.List.TakeDrop

namespace HookRules

namespace Json

-- ================================================================= the parts

/-- Decimal digits, at least one. -/
structure Digits where
  chars : List Char
  isDigit : ∀ c ∈ chars, c.isDigit = true
  ne_nil : chars ≠ []

def Digits.value (ds : Digits) : Nat := Decimal.ofDigits ds.chars

/-- What is written before the digits of an exponent. -/
inductive ExponentSign where
  | none | plus | minus

def ExponentSign.chars : ExponentSign → List Char
  | none => []
  | plus => ['+']
  | minus => ['-']

/-- An exponent as it is written. Its mark and its sign have more than one
spelling, and a plus says no more than no sign. -/
structure Exponent where
  /-- Whether the mark is a capital letter. -/
  capital : Bool
  sign : ExponentSign
  digits : Digits

namespace Exponent

/-- The letter that begins an exponent. -/
def mark (e : Exponent) : Char := if e.capital then 'E' else 'e'

def chars (e : Exponent) : List Char :=
  e.mark :: (e.sign.chars ++ e.digits.chars)

def value (e : Exponent) : Int :=
  match e.sign with
  | .minus => -(e.digits.value : Int)
  | _ => e.digits.value

end Exponent

/-- A number as it is written. -/
structure Numeral where
  negative : Bool
  whole : Digits
  /-- Whole digits start with a zero only if it is the only one. -/
  noLeadingZero : whole.chars.head? = some '0' → whole.chars = ['0']
  fraction : Option Digits
  exponent : Option Exponent

namespace Numeral

/-- The digits behind the point, none if there is no point. Only their values
count, so both cases are one for `number?`. -/
def fractionDigits (l : Numeral) : List Char := (l.fraction.map (·.chars)).getD []

/-- The point and its digits, as they are written. -/
def fractionChars (l : Numeral) : List Char :=
  match l.fraction with
  | none => []
  | some ds => '.' :: ds.chars

def exponentChars (l : Numeral) : List Char :=
  match l.exponent with
  | none => []
  | some e => e.chars

def chars (l : Numeral) : List Char :=
  (if l.negative then ['-'] else [])
    ++ (l.whole.chars ++ (l.fractionChars ++ l.exponentChars))

/-- A number that is written as an integer and fits 64 bits. Minus zero is a
fraction. -/
def IsInteger (l : Numeral) : Prop :=
  l.fraction = none ∧ l.exponent = none
    ∧ if l.negative then 0 < l.whole.value ∧ l.whole.value ≤ Nat.pow 2 63
      else l.whole.value < Nat.pow 2 64

instance (l : Numeral) : Decidable l.IsInteger :=
  inferInstanceAs (Decidable (_ = none ∧ _ = none ∧ ite _ _ _))

/-- The number that is written. -/
def number? (l : Numeral) : Option Number :=
  if l.IsInteger then
    some (.int (if l.negative then -(l.whole.value : Int) else l.whole.value))
  else
    (Decimal.stepwise? l.negative l.whole.chars l.fractionDigits
      ((l.exponent.map (·.value)).getD 0)).map .float

end Numeral

-- ============================================================ what may follow

/-- What may stand behind a number: nothing that it could go on with. In a JSON
text that is a blank, a comma, a closing bracket or the end. -/
def EndsNumber (rest : List Char) : Prop :=
  ∀ c ∈ rest.head?, c.isDigit = false ∧ c ≠ '.' ∧ c ≠ 'e' ∧ c ≠ 'E'

theorem EndsNumber.nil : EndsNumber [] := nofun

theorem EndsNumber.cons {c : Char} (hdigit : c.isDigit = false) (hpoint : c ≠ '.')
    (hsmall : c ≠ 'e') (hcapital : c ≠ 'E') (rest : List Char) :
    EndsNumber (c :: rest) := by
  intro d hd
  obtain rfl := Option.some.inj hd
  exact ⟨hdigit, hpoint, hsmall, hcapital⟩

/-- In particular there are no more digits, which is what the reader of digits
asks for. -/
theorem EndsNumber.isDigit {rest : List Char} (h : EndsNumber rest) :
    ∀ c ∈ rest.head?, c.isDigit = false :=
  fun c hc => (h c hc).1

/-- Digits end where there are no more. This is the one place where a scan is
opened; all parts of a number are found by it. -/
theorem Digits.span_append (ds : Digits) {rest : List Char}
    (h : ∀ c ∈ rest.head?, c.isDigit = false) :
    (ds.chars ++ rest).span Char.isDigit = (ds.chars, rest) := by
  rw [List.span_eq_takeWhile_dropWhile, List.takeWhile_append_of_pos ds.isDigit,
    List.dropWhile_append_of_pos ds.isDigit]
  cases rest with
  | nil => rw [List.takeWhile_nil, List.append_nil, List.dropWhile_nil]
  | cons c rest =>
      have hc : ¬ c.isDigit = true := by simp [h c rfl]
      rw [List.takeWhile_cons_of_neg hc, List.append_nil,
        List.dropWhile_cons_of_neg hc]

-- ================================================================ the reading

variable {rest : List Char}

/-- What follows the mark of an exponent is read as its value. A sign cannot be
taken for a digit, nor a digit for a sign. -/
theorem Exponent.exponent?_digits (e : Exponent)
    (h : ∀ c ∈ rest.head?, c.isDigit = false) :
    Token.exponent? (e.sign.chars ++ (e.digits.chars ++ rest))
      = some (e.value, rest) := by
  obtain ⟨capital, sign, digits⟩ := e
  have hspan := digits.span_append h
  obtain ⟨d, ds, hchars⟩ := List.exists_cons_of_ne_nil digits.ne_nil
  have hd : d.isDigit = true := digits.isDigit d (by simp [hchars])
  have hplus : d ≠ '+' := by rintro rfl; cases hd
  have hminus : d ≠ '-' := by rintro rfl; cases hd
  unfold Exponent.value Digits.value
  rw [hchars, List.cons_append] at hspan
  rw [hchars]
  cases sign with
  | none =>
      simp [-List.span_eq_takeWhile_dropWhile, Token.exponent?,
        ExponentSign.chars, hplus, hminus, hspan]
  | plus =>
      simp [-List.span_eq_takeWhile_dropWhile, Token.exponent?,
        ExponentSign.chars, hspan]
  | minus =>
      simp [-List.span_eq_takeWhile_dropWhile, Token.exponent?,
        ExponentSign.chars, hspan]

namespace Numeral

/-- Whole digits are read if they start with a zero only when it is the only
one, which a numeral guarantees. -/
theorem whole?_chars (l : Numeral) (h : ∀ c ∈ rest.head?, c.isDigit = false) :
    Token.whole? (l.whole.chars ++ rest) = some (l.whole.chars, rest) := by
  obtain ⟨d, ds, hchars⟩ := List.exists_cons_of_ne_nil l.whole.ne_nil
  have hspan := l.whole.span_append h
  have hzero := l.noLeadingZero
  unfold Token.whole?
  rw [hspan]
  rw [hchars] at hzero ⊢
  by_cases hd : d = '0'
  · subst hd
    rw [(List.cons.inj (hzero rfl)).2]
    rfl
  · simp [hd]

/-- A minus is read and nothing else: the first digit is none. -/
theorem sign_chars (l : Numeral) (rest : List Char) :
    Token.sign (l.chars ++ rest)
      = (l.negative,
        l.whole.chars ++ (l.fractionChars ++ (l.exponentChars ++ rest))) := by
  obtain ⟨d, ds, hchars⟩ := List.exists_cons_of_ne_nil l.whole.ne_nil
  have hd : d.isDigit = true := l.whole.isDigit d (by simp [hchars])
  have hminus : d ≠ '-' := by rintro rfl; cases hd
  unfold chars
  rw [hchars]
  cases l.negative with
  | true => simp [Token.sign]
  | false => simp [Token.sign, hminus]

/-- Without a point there is no fraction, so behind the whole digits there must
not be one that belongs to something else. -/
theorem fraction?_chars (l : Numeral)
    (h : ∀ c ∈ rest.head?, c.isDigit = false ∧ c ≠ '.') :
    Token.fraction? (l.fractionChars ++ rest)
      = some (l.fraction.map (·.chars), rest) := by
  unfold fractionChars
  cases l.fraction with
  | none =>
      cases rest with
      | nil => rfl
      | cons c rest => simp [Token.fraction?, (h c rfl).2]
  | some digits =>
      have hspan := digits.span_append fun c hc => (h c hc).1
      obtain ⟨d, ds, hchars⟩ := List.exists_cons_of_ne_nil digits.ne_nil
      rw [hchars, List.cons_append] at hspan
      simp only [List.cons_append, Token.fraction?, hchars, hspan,
        Option.map_some]

/-- The same for the mark of an exponent, in both spellings. -/
theorem marked?_chars (l : Numeral) (h : EndsNumber rest) :
    Token.marked? (l.exponentChars ++ rest)
      = some (l.exponent.map (·.value), rest) := by
  unfold exponentChars
  cases l.exponent with
  | none =>
      cases rest with
      | nil => rfl
      | cons c rest =>
          obtain ⟨-, -, hsmall, hcapital⟩ := h c rfl
          simp [Token.marked?, hsmall, hcapital]
  | some e =>
      have hdigits := e.exponent?_digits h.isDigit
      dsimp only
      unfold Exponent.chars Exponent.mark
      cases e.capital with
      | true => simp [Token.marked?, hdigits]
      | false => simp [Token.marked?, hdigits]

/-- What the reader accepts as an integer is what fits 64 bits, with a sign or
without one. Zero with a minus is left to the fractions. -/
theorem fits_iff (negative : Bool) (n : Nat) :
    Token.fits negative n = true
      ↔ if negative then 0 < n ∧ n ≤ Nat.pow 2 63 else n < Nat.pow 2 64 := by
  unfold Token.fits
  cases negative with
  | true =>
      simp only [if_true, Bool.and_eq_true, decide_eq_true_eq]
  | false =>
      rw [if_neg Bool.false_ne_true, if_neg Bool.false_ne_true,
        decide_eq_true_eq]

/-- The reader makes of the parts of a numeral the number that it is. -/
theorem value?_parts (l : Numeral) :
    Token.value? l.negative l.whole.chars (l.fraction.map (·.chars))
      (l.exponent.map (·.value)) = l.number? := by
  unfold Token.value? number? fractionDigits
  dsimp only
  have hinteger : ((l.fraction.map (·.chars)).isNone
      && (l.exponent.map (·.value)).isNone
      && Token.fits l.negative (Decimal.ofDigits l.whole.chars)) = true
        ↔ l.IsInteger := by
    unfold IsInteger Digits.value
    rw [Bool.and_eq_true, Bool.and_eq_true, fits_iff, Option.isNone_map,
      Option.isNone_map, Option.isNone_iff_eq_none, Option.isNone_iff_eq_none,
      and_assoc]
  by_cases h : l.IsInteger
  · rw [if_pos (hinteger.mpr h), if_pos h]
    rfl
  · rw [if_neg (mt hinteger.mp h), if_neg h]

/-- An exponent starts with its mark. -/
theorem head_exponentChars (l : Numeral) (h : EndsNumber rest) :
    ∀ c ∈ (l.exponentChars ++ rest).head?, c.isDigit = false ∧ c ≠ '.' := by
  intro c hc
  unfold exponentChars at hc
  cases hexponent : l.exponent with
  | none =>
      rw [hexponent] at hc
      exact ⟨(h c hc).1, (h c hc).2.1⟩
  | some e =>
      rw [hexponent] at hc
      obtain rfl := Option.some.inj hc
      unfold Exponent.mark
      cases e.capital with
      | true => exact ⟨rfl, by decide⟩
      | false => exact ⟨rfl, by decide⟩

/-- A fraction starts with its point. -/
theorem head_fractionChars (l : Numeral)
    (h : ∀ c ∈ rest.head?, c.isDigit = false ∧ c ≠ '.') :
    ∀ c ∈ (l.fractionChars ++ rest).head?, c.isDigit = false := by
  intro c hc
  unfold fractionChars at hc
  cases hfraction : l.fraction with
  | none =>
      rw [hfraction] at hc
      exact (h c hc).1
  | some ds =>
      rw [hfraction] at hc
      obtain rfl := Option.some.inj hc
      rfl

/-- A number is read to what it is written as. -/
theorem number?_chars (l : Numeral) (h : EndsNumber rest) :
    Token.number? (l.chars ++ rest) = l.number?.map (·, rest) := by
  have hexponent := l.head_exponentChars h
  unfold Token.number?
  rw [l.sign_chars]
  dsimp only
  rw [l.whole?_chars (l.head_fractionChars hexponent)]
  dsimp only [Option.bind_eq_bind, Option.bind_some]
  rw [l.fraction?_chars hexponent]
  dsimp only [Option.bind_some]
  rw [l.marked?_chars h]
  dsimp only [Option.bind_some]
  rw [l.value?_parts]
  cases l.number? <;> rfl

/-- A number starts with a sign or a digit. -/
theorem chars_eq_cons (l : Numeral) :
    ∃ c cs, l.chars = c :: cs ∧ (c = '-' ∨ c.isDigit = true) := by
  unfold chars
  cases l.negative with
  | true => exact ⟨_, _, rfl, Or.inl rfl⟩
  | false =>
      obtain ⟨d, ds, hchars⟩ := List.exists_cons_of_ne_nil l.whole.ne_nil
      refine ⟨d, ds ++ (l.fractionChars ++ l.exponentChars), ?_, Or.inr ?_⟩
      · rw [hchars]
        rfl
      · exact l.whole.isDigit d (by rw [hchars]; exact List.mem_cons_self ..)

end Numeral

end Json

end HookRules
