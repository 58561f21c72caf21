/-
How lexemes are written, and where they end.

# Lexemes

`Spells` says how a lexeme is written: the signs are a table, a string stands
between two of one quote, an integer is digits, a fraction has a point with
digits on both sides, a word starts with a letter. A lexeme goes on as long as it
can, so what stands behind it has a say in where it ends. `Ends` says that it does
not go on into what follows. Both together are all there is to cutting off a
lexeme (`next_ok_iff`): the longer sign wins, and a point belongs to a number only
if a digit stands on each side.

# Texts

`Cut` says that a text falls into blanks and lexemes, each token at the byte where
its lexeme starts. It is what the loop over a text does, without the fuel
(`tokenize_ok_iff`). `Cuts` says it of a part of a text, wherever it stands and
whatever tokens follow, so texts can be put together from parts.
-/
import HookRules.Proofs.Condition.Height
import HookRules.Proofs.Condition.Places
import HookRules.Proofs.Json.Numeral
import HookRules.Proofs.Text.Apart

namespace HookRules

namespace Condition

namespace Lexer

open Json (Digits)

-- =================================================================== writing

/-- The signs. Those that an equals sign makes longer come first. -/
def signs : List (List Char × Lexeme) :=
  [(['<'], .lt), (['>'], .gt), (['!'], .bang), (['<', '='], .le),
   (['>', '='], .ge), (['!', '='], .ne), (['=', '='], .eq), (['=', '~'], .search),
   (['&', '&'], .and), (['|', '|'], .or), (['$'], .dollar), (['('], .openParen),
   ([')'], .closeParen), (['['], .openBracket), ([']'], .closeBracket),
   ([','], .comma), (['.'], .dot), (['-'], .minus)]

/-- What stands between two quotes, and the characters that it means. -/
inductive Quoted (quote : Char) : List Char → List Char → Prop where
  | nil : Quoted quote [] []
  | plain {c : Char} {text s : List Char} (hquote : c ≠ quote) (hslash : c ≠ '\\')
      (h : Quoted quote text s) : Quoted quote (c :: text) (c :: s)
  | escaped (c : Char) {text s : List Char} (h : Quoted quote text s) :
      Quoted quote ('\\' :: c :: text) (unescape c :: s)

/-- The characters that open and close a string. -/
def IsQuote (c : Char) : Prop := c = '"' ∨ c = '\''

/-- How a lexeme is written. -/
inductive Spells : Lexeme → List Char → Prop where
  | sign {text : List Char} {l : Lexeme} (h : (text, l) ∈ signs) : Spells l text
  | str {quote : Char} {text s : List Char} (hquote : IsQuote quote)
      (h : Quoted quote text s) :
      Spells (.str (String.ofList s)) (quote :: (text ++ [quote]))
  | int (ds : Digits) (h : ds.value < Nat.pow 2 63) :
      Spells (.num (.int ds.value)) ds.chars
  | float (whole fraction : Digits) {x : Binary64}
      (h : Decimal.nearest? false (Decimal.ofDigits (whole.chars ++ fraction.chars))
        (-(fraction.chars.length : Int)) = some x) :
      Spells (.num (.float x)) (whole.chars ++ '.' :: fraction.chars)
  | word {c : Char} {cs : List Char} (hc : startsWord c = true)
      (hcs : ∀ d ∈ cs, continuesWord d = true) :
      Spells (.word (String.ofList (c :: cs))) (c :: cs)

/-- Whether characters are a word. -/
def isWord : List Char → Bool
  | [] => false
  | c :: cs => startsWord c && cs.all continuesWord

theorem exists_of_isWord {cs : List Char} (h : isWord cs = true) :
    ∃ c more, cs = c :: more ∧ startsWord c = true
      ∧ ∀ d ∈ more, continuesWord d = true := by
  cases cs with
  | nil => cases h
  | cons c more =>
      obtain ⟨hc, hmore⟩ := Bool.and_eq_true_iff.mp h
      exact ⟨c, more, rfl, hc, List.all_eq_true.mp hmore⟩

theorem continues_of_isWord {cs : List Char} (h : isWord cs = true) :
    ∀ c ∈ cs, continuesWord c = true := by
  obtain ⟨c, more, rfl, hc, hmore⟩ := exists_of_isWord h
  exact List.forall_mem_cons.mpr ⟨continuesWord_of_startsWord hc, hmore⟩

theorem spells_word {name : String} (h : isWord name.toList = true) :
    Spells (.word name) name.toList := by
  obtain ⟨c, more, hname, hc, hmore⟩ := exists_of_isWord h
  have hword := Spells.word hc hmore
  rwa [← hname, String.ofList_toList] at hword

/-- Behind an integer there is no digit, and no point with a digit behind it. -/
structure EndsInteger (rest : List Char) : Prop where
  digit : ∀ c ∈ rest.head?, c.isDigit = false
  point : ∀ d more, rest = '.' :: d :: more → d.isDigit = false

/-- A lexeme does not go on into what follows it. -/
def Ends : Lexeme → List Char → Prop
  | .lt, rest | .gt, rest | .bang, rest => rest.head? ≠ some '='
  | .word _, rest => ∀ c ∈ rest.head?, continuesWord c = false
  | .num (.int _), rest => EndsInteger rest
  | .num (.float _), rest => ∀ c ∈ rest.head?, c.isDigit = false
  | _, _ => True

-- =================================================================== strings

/-- A character other than a backslash means itself or closes the string. -/
theorem stringBody_cons {quote c : Char} (hslash : c ≠ '\\')
    (whole rest : List Char) :
    stringBody quote whole (c :: rest)
      = if c = quote then .ok ([], rest)
        else do
          let (cs, rest) ← stringBody quote whole rest
          return (c :: cs, rest) := by
  rw [stringBody] <;> simp [hslash]

/-- A string is read to its closing quote, whatever stands behind. -/
theorem stringBody_quoted {quote : Char} (hquote : quote ≠ '\\')
    {text s : List Char} (h : Quoted quote text s) (whole rest : List Char) :
    stringBody quote whole (text ++ quote :: rest) = .ok (s, rest) := by
  induction h with
  | nil => rw [List.nil_append, stringBody_cons hquote, if_pos rfl]
  | plain hne hslash _ ih =>
      rw [List.cons_append, stringBody_cons hslash, if_neg hne, ih]
      rfl
  | escaped c _ ih =>
      rw [List.cons_append, List.cons_append, stringBody, ih]
      rfl

/-- What was read as a string stands before a closing quote. -/
theorem quoted_of_stringBody {quote : Char} {whole cs s rest : List Char}
    (h : stringBody quote whole cs = .ok (s, rest)) :
    ∃ text, cs = text ++ quote :: rest ∧ Quoted quote text s := by
  fun_induction stringBody quote whole cs generalizing s with
  | case1 => cases h
  | case2 => cases h
  | case3 c more ih =>
      obtain ⟨⟨s', rest'⟩, hbody, hret⟩ := Parser.ok_of_bind h
      cases hret
      obtain ⟨text, rfl, hquoted⟩ := ih hbody
      exact ⟨'\\' :: c :: text, rfl, .escaped c hquoted⟩
  | case4 more =>
      cases h
      exact ⟨[], rfl, .nil⟩
  | case5 c more hdangling hescape hne ih =>
      obtain ⟨⟨s', rest'⟩, hbody, hret⟩ := Parser.ok_of_bind h
      cases hret
      obtain ⟨text, rfl, hquoted⟩ := ih hbody
      refine ⟨c :: text, rfl, .plain hne ?_ hquoted⟩
      intro hslash
      cases text with
      | nil => exact hescape _ _ hslash rfl
      | cons d text => exact hescape _ _ hslash rfl

-- =================================================================== numbers

/-- A text that starts with a digit starts with digits that end. -/
theorem exists_digits {c : Char} (hc : c.isDigit = true) (cs : List Char) :
    ∃ (ds : Digits) (rest : List Char), c :: cs = ds.chars ++ rest
      ∧ ∀ d ∈ rest.head?, d.isDigit = false := by
  refine ⟨⟨(c :: cs).takeWhile Char.isDigit, ?_, ?_⟩,
    (c :: cs).dropWhile Char.isDigit, ?_, ?_⟩
  · exact fun d hd => List.mem_takeWhile_imp hd
  · simp [hc]
  · exact List.takeWhile_append_dropWhile.symm
  · intro d hd
    have hstop := List.head?_dropWhile_not Char.isDigit (c :: cs)
    rw [hd] at hstop
    simpa using hstop

/-- Digits that end are an integer, if it is not too large. -/
theorem number_int (ds : Digits) {rest : List Char} (hrest : EndsInteger rest) :
    number (ds.chars ++ rest)
      = if ds.value < Nat.pow 2 63 then .ok (.int ds.value, rest)
        else .error (.badNumber (String.ofList ds.chars), ds.chars ++ rest) := by
  unfold number
  rw [ds.span_append hrest.digit]
  dsimp only
  split
  · next d more =>
      rw [if_neg (by simp [hrest.point d more rfl])]
      rfl
  · rfl

/-- Digits on both sides of a point are a fraction, if it is finite. -/
theorem number_float (whole fraction : Digits) {rest : List Char}
    (hrest : ∀ c ∈ rest.head?, c.isDigit = false) :
    number (whole.chars ++ '.' :: (fraction.chars ++ rest))
      = match Decimal.nearest? false
          (Decimal.ofDigits (whole.chars ++ fraction.chars))
          (-(fraction.chars.length : Int)) with
        | some x => .ok (.float x, rest)
        | none => .error (.badNumber
            (String.ofList (whole.chars ++ '.' :: fraction.chars)),
            whole.chars ++ '.' :: (fraction.chars ++ rest)) := by
  obtain ⟨d, ds, hfraction⟩ := List.exists_cons_of_ne_nil fraction.ne_nil
  have hd : d.isDigit = true := fraction.isDigit d (by simp [hfraction])
  have hspan := fraction.span_append hrest
  unfold number
  rw [whole.span_append (by simp)]
  rw [hfraction, List.cons_append] at hspan ⊢
  refine (if_pos hd).trans ?_
  generalize List.span Char.isDigit (d :: (ds ++ rest)) = cut at hspan ⊢
  subst hspan
  rfl

/-- A text that starts with a digit starts with a fraction or with an integer. -/
theorem fraction_or_integer {c : Char} (hc : c.isDigit = true) (cs : List Char) :
    (∃ (whole fraction : Digits) (rest : List Char),
        c :: cs = whole.chars ++ '.' :: (fraction.chars ++ rest)
          ∧ ∀ d ∈ rest.head?, d.isDigit = false)
      ∨ ∃ (ds : Digits) (rest : List Char), c :: cs = ds.chars ++ rest
          ∧ EndsInteger rest := by
  obtain ⟨ds, after, hsplit, hafter⟩ := exists_digits hc cs
  by_cases hpoint : ∃ d more, after = '.' :: d :: more ∧ d.isDigit = true
  · obtain ⟨d, more, rfl, hd⟩ := hpoint
    obtain ⟨fraction, rest, hmore, hrest⟩ := exists_digits hd more
    rw [hmore] at hsplit
    exact Or.inl ⟨ds, fraction, rest, hsplit, hrest⟩
  · refine Or.inr ⟨ds, after, hsplit, hafter, fun d more heq => ?_⟩
    by_contra hd
    exact hpoint ⟨d, more, heq, by simpa using hd⟩

/-- What is cut off as a number is written as one, and ends. -/
theorem number_sound {c : Char} (hc : c.isDigit = true) {cs rest : List Char}
    {n : Number} (h : number (c :: cs) = .ok (n, rest)) :
    ∃ text, c :: cs = text ++ rest ∧ Spells (.num n) text ∧ Ends (.num n) rest := by
  rcases fraction_or_integer hc cs with ⟨whole, fraction, rest', hsplit, hends⟩
    | ⟨ds, rest', hsplit, hends⟩
  · rw [hsplit] at h ⊢
    rw [number_float whole fraction hends] at h
    split at h
    · next x hx =>
        cases h
        refine ⟨_, ?_, .float whole fraction hx, hends⟩
        rw [List.append_assoc, List.cons_append]
    · cases h
  · rw [hsplit] at h ⊢
    rw [number_int ds hends] at h
    split at h
    · next hbound =>
        cases h
        exact ⟨_, rfl, .int ds hbound, hends⟩
    · cases h

-- =================================================================== lexemes

/-- The characters that signs start with. -/
def signChars : List Char :=
  ['=', '!', '<', '>', '&', '|', '$', '(', ')', '[', ']', ',', '.', '-']

/-- What starts with no sign is a string, a number or a word. -/
theorem next_of_not_sign {c : Char} (h : c ∉ signChars) (cs : List Char) :
    next (c :: cs)
      = if c = '"' ∨ c = '\'' then do
          let (body, rest) ← stringBody c (c :: cs) cs
          return (.str (String.ofList body), rest)
        else if c.isDigit then do
          let (n, rest) ← number (c :: cs)
          return (.num n, rest)
        else if startsWord c then
          let (name, rest) := (c :: cs).span continuesWord
          .ok (.word (String.ofList name), rest)
        else if c = '=' then .error (.loneEquals, c :: cs)
        else .error (.strayCharacter c, c :: cs) := by
  simp only [signChars, List.mem_cons, List.not_mem_nil, or_false, not_or] at h
  rw [next] <;> simp_all

/-- The characters of signs start nothing else. -/
theorem signChars_start_nothing :
    ∀ c ∈ signChars, ¬ IsQuote c ∧ c.isDigit = false ∧ startsWord c = false := by
  simp only [signChars, List.forall_mem_cons, List.not_mem_nil, false_imp_iff,
    implies_true, and_true, IsQuote]
  decide +kernel

theorem next_quote {c : Char} (h : IsQuote c) (cs : List Char) :
    next (c :: cs) = do
      let (body, rest) ← stringBody c (c :: cs) cs
      return (.str (String.ofList body), rest) := by
  have hsign : c ∉ signChars := fun hc => (signChars_start_nothing c hc).1 h
  rw [next_of_not_sign hsign]
  exact if_pos h

theorem next_digit {c : Char} (h : c.isDigit = true) (cs : List Char) :
    next (c :: cs) = do
      let (n, rest) ← number (c :: cs)
      return (.num n, rest) := by
  have hsign : c ∉ signChars := by
    intro hc
    rw [(signChars_start_nothing c hc).2.1] at h
    cases h
  have hquote : ¬ (c = '"' ∨ c = '\'') := by
    rintro (rfl | rfl) <;> cases h
  rw [next_of_not_sign hsign, if_neg hquote, if_pos h]

/-- What starts a word is no digit. -/
theorem isDigit_of_startsWord {c : Char} (h : startsWord c = true) :
    c.isDigit = false := by
  rw [Bool.eq_false_iff]
  intro hdigit
  have hrange : 48 ≤ c.val.toNat ∧ c.val.toNat ≤ 57 := by
    simpa [Char.isDigit, UInt32.le_iff_toNat_le] using hdigit
  have hascii : c.toNat < 128 := Nat.lt_of_le_of_lt hrange.2 (by decide)
  have hA : 'A'.val.toNat = 65 := rfl
  have ha : 'a'.val.toNat = 97 := rfl
  unfold startsWord Text.isLetter at h
  rw [if_pos hascii] at h
  simp only [Bool.or_eq_true, Char.isAlpha, Char.isUpper, Char.isLower,
    Bool.and_eq_true, decide_eq_true_eq, UInt32.le_iff_toNat_le, ge_iff_le,
    beq_iff_eq] at h
  rcases h with h | rfl
  · omega
  · cases hdigit

theorem next_word {c : Char} (h : startsWord c = true) (cs : List Char) :
    next (c :: cs) = .ok (.word (String.ofList ((c :: cs).takeWhile continuesWord)),
      (c :: cs).dropWhile continuesWord) := by
  have hsign : c ∉ signChars := by
    intro hc
    rw [(signChars_start_nothing c hc).2.2] at h
    cases h
  have hquote : ¬ (c = '"' ∨ c = '\'') := by
    rintro (rfl | rfl) <;> exact absurd h (by decide +kernel)
  rw [next_of_not_sign hsign, if_neg hquote, isDigit_of_startsWord h,
    if_neg Bool.false_ne_true, if_pos h, List.span_eq_takeWhile_dropWhile]

/-- A sign is cut off where no longer one stands. -/
theorem next_sign {text rest : List Char} {l : Lexeme} (h : (text, l) ∈ signs)
    (hends : Ends l rest) : next (text ++ rest) = .ok (l, rest) := by
  have hopen : rest.head? ≠ some '=' → ∀ more, rest = '=' :: more → False := by
    rintro hhead more rfl
    exact hhead rfl
  simp only [signs, List.mem_cons, Prod.mk.injEq, List.not_mem_nil,
    or_false] at h
  rcases h with ⟨rfl, rfl⟩ | ⟨rfl, rfl⟩ | ⟨rfl, rfl⟩ | h
  · rw [List.singleton_append, next]
    exact hopen hends
  · rw [List.singleton_append, next]
    exact hopen hends
  · rw [List.singleton_append, next]
    exact hopen hends
  · rcases h with ⟨rfl, rfl⟩ | ⟨rfl, rfl⟩ | ⟨rfl, rfl⟩ | ⟨rfl, rfl⟩ | ⟨rfl, rfl⟩
      | ⟨rfl, rfl⟩ | ⟨rfl, rfl⟩ | ⟨rfl, rfl⟩ | ⟨rfl, rfl⟩ | ⟨rfl, rfl⟩ | ⟨rfl, rfl⟩
      | ⟨rfl, rfl⟩ | ⟨rfl, rfl⟩ | ⟨rfl, rfl⟩ | ⟨rfl, rfl⟩ <;> rfl

/-- A lexeme that is written at the start of a text and does not go on into what
follows is cut off. -/
theorem next_spelled {l : Lexeme} {text rest : List Char} (h : Spells l text)
    (hends : Ends l rest) : next (text ++ rest) = .ok (l, rest) := by
  cases h with
  | sign hsign => exact next_sign hsign hends
  | @str quote text s hquote hquoted =>
      have hslash : quote ≠ '\\' := by
        rcases hquote with rfl | rfl <;> decide
      rw [List.cons_append, List.append_assoc, List.singleton_append,
        next_quote hquote, stringBody_quoted hslash hquoted]
      rfl
  | int ds hbound =>
      obtain ⟨d, more, hchars⟩ := List.exists_cons_of_ne_nil ds.ne_nil
      have hd : d.isDigit = true := ds.isDigit d (by simp [hchars])
      have hnumber := number_int ds hends
      rw [if_pos hbound] at hnumber
      rw [hchars, List.cons_append] at hnumber ⊢
      rw [next_digit hd, hnumber]
      rfl
  | float whole fraction hx =>
      obtain ⟨d, more, hchars⟩ := List.exists_cons_of_ne_nil whole.ne_nil
      have hd : d.isDigit = true := whole.isDigit d (by simp [hchars])
      have hnumber := number_float whole fraction hends
      rw [hx] at hnumber
      rw [List.append_assoc, List.cons_append]
      rw [hchars, List.cons_append] at hnumber ⊢
      rw [next_digit hd, hnumber]
      rfl
  | @word c cs hc hcs =>
      have hall : ∀ d ∈ c :: cs, continuesWord d = true :=
        List.forall_mem_cons.mpr ⟨continuesWord_of_startsWord hc, hcs⟩
      have hhead : ∀ d ∈ rest.head?, continuesWord d = false := hends
      rw [List.cons_append, next_word hc, ← List.cons_append,
        List.takeWhile_append_of_pos hall, List.dropWhile_append_of_pos hall]
      cases rest with
      | nil => simp
      | cons d rest => simp [hhead d rfl]

/-- What is cut off is written at the start of the text and does not go on into
what follows. -/
theorem next_sound {cs rest : List Char} {l : Lexeme}
    (h : next cs = .ok (l, rest)) :
    ∃ text, cs = text ++ rest ∧ Spells l text ∧ Ends l rest := by
  unfold next at h
  split at h
  case h_1 => cases h
  -- signs that nothing makes longer
  case h_2 | h_3 | h_4 | h_5 | h_6 | h_7 | h_8 =>
    cases h
    exact ⟨[_, _], rfl, .sign (by simp [signs]), trivial⟩
  case h_12 | h_13 | h_14 | h_15 | h_16 | h_17 | h_18 | h_19 =>
    cases h
    exact ⟨[_], rfl, .sign (by simp [signs]), trivial⟩
  -- signs that an equals sign makes longer
  case h_9 more hlonger | h_10 more hlonger | h_11 more hlonger =>
    cases h
    refine ⟨[_], rfl, .sign (by simp [signs]), fun hhead => ?_⟩
    obtain ⟨tail, htail⟩ := List.head?_eq_some_iff.mp hhead
    exact hlonger tail htail
  -- strings, numbers and words
  case h_20 c cs _ _ _ _ _ _ _ _ _ _ _ _ _ _ _ _ _ _ =>
    split at h
    · next hquote =>
        obtain ⟨⟨s, rest'⟩, hbody, hret⟩ := Parser.ok_of_bind h
        cases hret
        obtain ⟨text, rfl, hquoted⟩ := quoted_of_stringBody hbody
        exact ⟨c :: (text ++ [c]), by simp, .str hquote hquoted, trivial⟩
    · split at h
      · next hdigit =>
          obtain ⟨⟨n, rest'⟩, hnumber, hret⟩ := Parser.ok_of_bind h
          cases hret
          exact number_sound hdigit hnumber
      · split at h
        · next hword =>
            rw [List.span_eq_takeWhile_dropWhile] at h
            cases h
            have htake := List.takeWhile_cons_of_pos
              (continuesWord_of_startsWord hword) (l := cs)
            refine ⟨(c :: cs).takeWhile continuesWord,
              List.takeWhile_append_dropWhile.symm, ?_, ?_⟩
            · rw [htake]
              exact .word hword fun d hd => List.mem_takeWhile_imp hd
            · intro d hd
              have hstop := List.head?_dropWhile_not continuesWord (c :: cs)
              rw [hd] at hstop
              simpa using hstop
        · split at h <;> cases h

theorem next_ok_iff {cs rest : List Char} {l : Lexeme} :
    next cs = .ok (l, rest)
      ↔ ∃ text, cs = text ++ rest ∧ Spells l text ∧ Ends l rest := by
  constructor
  · exact next_sound
  · rintro ⟨text, rfl, hspells, hends⟩
    exact next_spelled hspells hends

-- ===================================================================== blanks

/-- No blank continues a word. -/
theorem continuesWord_of_isBlank {c : Char} (h : Text.isBlank c = true) :
    continuesWord c = false := by
  unfold continuesWord
  rw [Text.isLetterOrNumber_of_isBlank h, Bool.false_or, beq_eq_false_iff_ne]
  rintro rfl
  cases h

/-- What continues no word is no digit. -/
theorem isDigit_of_continuesWord {c : Char} (h : continuesWord c = false) :
    c.isDigit = false := by
  rw [Bool.eq_false_iff]
  intro hdigit
  have hrange : 48 ≤ c.toNat ∧ c.toNat ≤ 57 := by
    simpa [Char.isDigit, UInt32.le_iff_toNat_le] using hdigit
  have hascii : c.toNat < 128 := by omega
  unfold continuesWord Text.isLetterOrNumber at h
  rw [if_pos hascii, Char.isAlphanum, hdigit, Bool.or_true] at h
  cases h

/-- No lexeme starts with a blank. -/
theorem Spells.head {l : Lexeme} {text : List Char} (h : Spells l text) :
    ∃ c more, text = c :: more ∧ Text.isBlank c = false := by
  have hdigits : ∀ ds : Digits, ∃ c more, ds.chars = c :: more
      ∧ Text.isBlank c = false := by
    intro ds
    obtain ⟨c, more, hchars⟩ := List.exists_cons_of_ne_nil ds.ne_nil
    have hc : c.isDigit = true := ds.isDigit c (by simp [hchars])
    refine ⟨c, more, hchars, ?_⟩
    rw [Bool.eq_false_iff]
    intro hblank
    rw [isDigit_of_continuesWord (continuesWord_of_isBlank hblank)] at hc
    cases hc
  cases h with
  | sign hsign =>
      have hclear : ∀ p ∈ signs, p.1.head?.map Text.isBlank = some false := by
        decide
      obtain ⟨c, hc, hblank⟩ := Option.map_eq_some_iff.mp (hclear _ hsign)
      obtain ⟨more, htext⟩ := List.head?_eq_some_iff.mp hc
      exact ⟨c, more, htext, hblank⟩
  | str hquote _ =>
      refine ⟨_, _, rfl, ?_⟩
      rcases hquote with rfl | rfl <;> decide
  | int ds _ => exact hdigits ds
  | float whole fraction _ =>
      obtain ⟨c, more, hchars, hc⟩ := hdigits whole
      exact ⟨c, _, by rw [hchars]; rfl, hc⟩
  | word hc _ =>
      refine ⟨_, _, rfl, ?_⟩
      rw [Bool.eq_false_iff]
      intro hblank
      have hno := continuesWord_of_isBlank hblank
      rw [continuesWord_of_startsWord hc] at hno
      cases hno

/-- A character that can stand in no lexeme but a string, or only at the start of
one, ends every lexeme. -/
theorem Ends.of_head {c : Char} (hequals : c ≠ '=') (hpoint : c ≠ '.')
    (hword : continuesWord c = false) (l : Lexeme) (rest : List Char) :
    Ends l (c :: rest) := by
  have hdigit : ∀ d ∈ (c :: rest).head?, d.isDigit = false := by
    rintro d ⟨⟩
    exact isDigit_of_continuesWord hword
  have hopen : (c :: rest).head? ≠ some '=' := by
    rintro ⟨⟩
    exact hequals rfl
  cases l with
  | lt | gt | bang => exact hopen
  | word _ =>
      rintro d ⟨⟩
      exact hword
  | num n =>
      cases n with
      | int _ =>
          refine ⟨hdigit, ?_⟩
          rintro d more ⟨⟩
          exact absurd rfl hpoint
      | float _ => exact hdigit
  | _ => trivial

/-- A blank ends every lexeme. -/
theorem Ends.of_isBlank {c : Char} (h : Text.isBlank c = true) (l : Lexeme)
    (rest : List Char) : Ends l (c :: rest) := by
  refine .of_head ?_ ?_ (continuesWord_of_isBlank h) l rest
  · rintro rfl
    cases h
  · rintro rfl
    cases h

/-- At the end of a text every lexeme ends. -/
theorem Ends.nil (l : Lexeme) : Ends l [] := by
  cases l with
  | lt | gt | bang => exact nofun
  | word _ => exact nofun
  | num n =>
      cases n with
      | int _ => exact ⟨nofun, nofun⟩
      | float _ => exact nofun
  | _ => trivial

-- ====================================================================== texts

/-- A text that starts at a byte falls into blanks and tokens. -/
inductive Cut : Nat → List Char → List Token → Prop where
  | nil {p : Nat} : Cut p [] []
  | blank {p : Nat} {c : Char} {cs : List Char} {ts : List Token}
      (hc : Text.isBlank c = true) (h : Cut (p + c.utf8Size) cs ts) :
      Cut p (c :: cs) ts
  | token {p : Nat} {l : Lexeme} {text rest : List Char} {ts : List Token}
      (hspells : Spells l text) (hends : Ends l rest)
      (h : Cut (p + byteLength text) rest ts) :
      Cut p (text ++ rest) (⟨l, p⟩ :: ts)

theorem byteLength_append (cs ds : List Char) :
    byteLength (cs ++ ds) = byteLength cs + byteLength ds := by
  induction cs with
  | nil => simp [byteLength]
  | cons c cs ih => simp [byteLength, ih, Nat.add_assoc]

/-- With fuel enough for its characters, a text that falls into blanks and
tokens is cut into them. -/
theorem tokensWith_of_cut {p : Nat} {cs : List Char} {ts : List Token}
    (h : Cut p cs ts) {fuel : Nat} (hfuel : cs.length ≤ fuel) :
    tokensWith fuel p cs = .ok ts := by
  induction h generalizing fuel with
  | nil => simp [tokensWith]
  | blank hc _ ih =>
      cases fuel with
      | zero => cases hfuel
      | succ fuel =>
          rw [tokensWith, if_pos hc]
          exact ih (Nat.le_of_succ_le_succ hfuel)
  | @token p l text rest ts hspells hends _ ih =>
      obtain ⟨c, more, rfl, hblank⟩ := hspells.head
      cases fuel with
      | zero => cases hfuel
      | succ fuel =>
          have hnext := next_spelled hspells hends
          have hshort : rest.length ≤ fuel := by
            rw [List.cons_append, List.length_cons, List.length_append] at hfuel
            omega
          have hplace : byteLength (c :: more ++ rest) - byteLength rest
              = byteLength (c :: more) := by
            rw [byteLength_append, Nat.add_sub_cancel]
          refine tokensWith_next hblank hnext ?_
          show tokensWith fuel
            (p + (byteLength (c :: more ++ rest) - byteLength rest)) rest = _
          rw [hplace]
          exact ih hshort

/-- What is cut into tokens falls into blanks and them. -/
theorem cut_of_tokensWith {fuel p : Nat} {cs : List Char} {ts : List Token}
    (h : tokensWith fuel p cs = .ok ts) : Cut p cs ts := by
  induction fuel generalizing p cs ts with
  | zero =>
      cases cs with
      | nil =>
          cases h
          exact .nil
      | cons c cs => cases h
  | succ fuel ih =>
      cases cs with
      | nil =>
          cases h
          exact .nil
      | cons c cs =>
          rcases tokensWith_cons h with ⟨hblank, h⟩ | ⟨_, _, -, hfault⟩
            | ⟨l, rest, hnext, h⟩
          · exact .blank hblank (ih h)
          · cases hfault
          · obtain ⟨more, hmore, hret⟩ := Parser.ok_of_bind h
            cases hret
            obtain ⟨text, htext, hspells, hends⟩ := next_sound hnext
            rw [htext, byteLength_append, Nat.add_sub_cancel] at hmore
            rw [htext]
            exact .token hspells hends (ih hmore)

/-- A text falls into blanks and tokens in one way. -/
theorem Cut.unique {p : Nat} {cs : List Char} {ts ts' : List Token}
    (h : Cut p cs ts) (h' : Cut p cs ts') : ts = ts' := by
  have hts := tokensWith_of_cut h (Nat.le_refl _)
  rw [tokensWith_of_cut h' (Nat.le_refl _)] at hts
  exact (Except.ok.inj hts).symm

-- ====================================================================== parts

/-- A part of a text is cut into lexemes, wherever it stands, given what follows
it. -/
def Cuts (text : List Char) (ls : List Lexeme) (rest : List Char) : Prop :=
  ∀ ⦃p : Nat⦄ ⦃ts : List Token⦄, Cut (p + byteLength text) rest ts →
    ∃ us, us.map (·.lexeme) = ls ∧ Cut p (text ++ rest) (us ++ ts)

namespace Cuts

variable {text more rest : List Char} {l : Lexeme} {ls ks : List Lexeme}

theorem nil (rest : List Char) : Cuts [] [] rest :=
  fun _ _ hrest => ⟨[], rfl, hrest⟩

theorem one (hspells : Spells l text) (hends : Ends l rest) : Cuts text [l] rest :=
  fun _ _ hrest => ⟨[⟨l, _⟩], rfl, .token hspells hends hrest⟩

theorem append (h : Cuts text ls (more ++ rest)) (hmore : Cuts more ks rest) :
    Cuts (text ++ more) (ls ++ ks) rest := by
  intro p ts hrest
  rw [byteLength_append, ← Nat.add_assoc] at hrest
  obtain ⟨vs, rfl, hcut⟩ := hmore hrest
  obtain ⟨us, rfl, hcut⟩ := h hcut
  refine ⟨us ++ vs, List.map_append, ?_⟩
  rw [List.append_assoc, List.append_assoc]
  exact hcut

theorem cons (hspells : Spells l text) (hends : Ends l (more ++ rest))
    (hmore : Cuts more ls rest) : Cuts (text ++ more) (l :: ls) rest :=
  append (one hspells hends) hmore

/-- A sign of one character before what it does not go on into. -/
theorem sign {c : Char} (hsign : ([c], l) ∈ signs) (hends : Ends l (more ++ rest))
    (hmore : Cuts more ls rest) : Cuts (c :: more) (l :: ls) rest :=
  cons (.sign hsign) hends hmore

/-- Alone, a part is a text of its own. -/
theorem cut (h : Cuts text ls []) :
    ∃ ts, ts.map (·.lexeme) = ls ∧ Cut 0 text ts := by
  obtain ⟨ts, hts, hcut⟩ := h .nil
  rw [List.append_nil, List.append_nil] at hcut
  exact ⟨ts, hts, hcut⟩

end Cuts

end Lexer

/-- A text is cut into some tokens just if it falls into blanks and them. -/
theorem tokenize_ok_iff {source : String} {ts : List Token} :
    tokenize source = .ok ts ↔ Lexer.Cut 0 source.toList ts :=
  ⟨Lexer.cut_of_tokensWith, fun h => Lexer.tokensWith_of_cut h (Nat.le_refl _)⟩

end Condition

end HookRules
