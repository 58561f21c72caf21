/-
How paths are spelled.

A step of a path is a key or an index, and each of them can stand behind a dot or
between brackets. The spellings are worth the same to the reader of tokens, but
the text is cut into tokens first, and a point between two digits belongs to a
number. So it depends on the neighbours of a dotted index what is cut off there:
behind any other step it is an integer, and behind another dotted index both
together are a fraction (`pathLexemes`).

A fraction is no step. A path is read as its steps if no two dotted indexes stand
side by side (`Apart`), and otherwise refused at the first two that do.
-/
import HookRules.Proofs.Condition.Literals
import HookRules.Proofs.Number.Reading

namespace HookRules

namespace Condition

open Json (Digits)
open Lexer (IsQuote Spells Ends EndsInteger Cuts)
open Grammar

-- ====================================================================== steps

/-- A key that is a word. -/
structure WordKey where
  name : String
  isWord : Lexer.isWord name.toList = true

/-- A written index from 0 to 2^63 - 1. -/
structure WrittenIndex where
  digits : Digits
  fits : digits.value < 2 ^ 63

/-- An index without needless zeros. -/
def WrittenIndex.ofNat (n : Nat) (h : n < 2 ^ 63) : WrittenIndex where
  digits := .ofNat n
  fits := by rwa [Digits.value_ofNat]

/-- How a step of a path is spelled. -/
inductive PathStep where
  | dottedKey (key : WordKey)
  | quotedKey (key : WordKey) (quote : Char) (hquote : IsQuote quote)
  | dottedIndex (i : WrittenIndex)
  | bracketedIndex (i : WrittenIndex)

namespace PathStep

def segment : PathStep → Segment
  | .dottedKey key | .quotedKey key _ _ => .key key.name
  | .dottedIndex i | .bracketedIndex i => .index i.digits.value

def text : PathStep → List Char
  | .dottedKey key => '.' :: key.name.toList
  | .quotedKey key quote _ => '[' :: quote :: (key.name.toList ++ [quote, ']'])
  | .dottedIndex i => '.' :: i.digits.chars
  | .bracketedIndex i => '[' :: (i.digits.chars ++ [']'])

/-- The lexemes of a step that is cut off by itself. -/
def lexemes : PathStep → List Lexeme
  | .dottedKey key => [.dot, .word key.name]
  | .quotedKey key _ _ => [.openBracket, .str key.name, .closeBracket]
  | .dottedIndex i => [.dot, .num (.int i.digits.value)]
  | .bracketedIndex i => [.openBracket, .num (.int i.digits.value), .closeBracket]

def isDottedIndex : PathStep → Bool
  | .dottedIndex _ => true
  | _ => false

/-- By itself a step is one of the grammar. -/
theorem step (s : PathStep) : Grammar.Step s.lexemes s.segment := by
  cases s with
  | dottedKey key => exact .field key.name
  | quotedKey key _ _ => exact .key key.name
  | dottedIndex i => exact .place i.digits.value
  | bracketedIndex i => exact .index i.digits.value

end PathStep

/-- The text of a path. -/
def pathText (root : String) (steps : List PathStep) : String :=
  String.ofList (root.toList ++ steps.flatMap (·.text))

/-- No two dotted indexes stand side by side. -/
def Apart (steps : List PathStep) : Prop :=
  steps.IsChain fun s t => ¬ (s.isDottedIndex = true ∧ t.isDottedIndex = true)

/-- The fraction that two dotted indexes are cut off as. -/
def fraction (i j : WrittenIndex) : Binary64 :=
  (Decimal.nearest? false (Decimal.ofDigits (i.digits.chars ++ j.digits.chars))
    (-(j.digits.chars.length : Int))).getD .zero

/-- What the steps of a path are cut into. -/
def pathLexemes : List PathStep → List Lexeme
  | .dottedIndex i :: .dottedIndex j :: steps =>
      .dot :: .num (.float (fraction i j)) :: pathLexemes steps
  | s :: steps => s.lexemes ++ pathLexemes steps
  | [] => []

-- =================================================================== fractions

theorem nearest?_fraction (i j : WrittenIndex) :
    Decimal.nearest? false (Decimal.ofDigits (i.digits.chars ++ j.digits.chars))
      (-(j.digits.chars.length : Int)) = some (fraction i j) := by
  have hlt : Decimal.ofDigits (i.digits.chars ++ j.digits.chars)
      < (i.digits.value + 1) * 10 ^ j.digits.chars.length := by
    rw [Decimal.ofDigits_eq, Nat.ofDigitChars_append]
    exact Json.ofDigitChars_lt j.digits.isDigit _
  have hlimit : 2 ^ 63 ≤ Decimal.limit := by decide +kernel
  have hfits := i.fits
  obtain ⟨x, hx⟩ : ∃ x, Decimal.nearest? false
      (Decimal.ofDigits (i.digits.chars ++ j.digits.chars))
      (-(j.digits.chars.length : Int)) = some x := by
    refine Decimal.nearest?_of_le_limit ?_
    calc Decimal.ofDigits (i.digits.chars ++ j.digits.chars)
        ≤ (i.digits.value + 1) * 10 ^ j.digits.chars.length := Nat.le_of_lt hlt
      _ ≤ Decimal.limit * 10 ^ j.digits.chars.length :=
          Nat.mul_le_mul_right _ (Nat.le_trans hfits hlimit)
      _ = 10 ^ j.digits.chars.length * Decimal.limit := Nat.mul_comm _ _
  rw [fraction, hx]
  rfl

-- ======================================================================== cuts

/-- What follows a step starts with a dot or a bracket. -/
theorem head_path (steps : List PathStep) :
    ∀ c ∈ (steps.flatMap (·.text)).head?, c = '.' ∨ c = '[' := by
  cases steps with
  | nil => exact nofun
  | cons s steps =>
      cases s with
      | dottedKey _ | dottedIndex _ =>
          rintro c ⟨⟩
          exact Or.inl rfl
      | quotedKey _ _ _ | bracketedIndex _ =>
          rintro c ⟨⟩
          exact Or.inr rfl

theorem ends_word (name : String) (steps : List PathStep) :
    Ends (.word name) (steps.flatMap (·.text)) := by
  intro c hc
  rcases head_path steps c hc with rfl | rfl <;> decide +kernel

theorem ends_fraction (x : Binary64) (steps : List PathStep) :
    Ends (.num (.float x)) (steps.flatMap (·.text)) := by
  intro c hc
  rcases head_path steps c hc with rfl | rfl <;> decide

/-- An index ends before every step but a dotted index. -/
theorem ends_index (i : WrittenIndex) {steps : List PathStep}
    (h : ∀ s ∈ steps.head?, s.isDottedIndex = false) :
    Ends (.num (.int i.digits.value)) (steps.flatMap (·.text)) := by
  constructor
  · intro c hc
    rcases head_path steps c hc with rfl | rfl <;> decide
  · intro d more hpoint
    cases steps with
    | nil => cases hpoint
    | cons s steps =>
        cases s with
        | dottedKey key =>
            obtain ⟨c, cs, hname, hc, -⟩ := Lexer.exists_of_isWord key.isWord
            rw [List.flatMap_cons, PathStep.text, hname] at hpoint
            cases hpoint
            exact Lexer.isDigit_of_startsWord hc
        | dottedIndex _ => cases h _ rfl
        | quotedKey _ _ _ | bracketedIndex _ => cases hpoint

/-- Between quotes a word means itself. -/
theorem quoted_word {quote : Char} (hquote : IsQuote quote) {cs : List Char}
    (h : ∀ c ∈ cs, Lexer.continuesWord c = true) : Lexer.Quoted quote cs cs := by
  have hslash : Lexer.continuesWord '\\' = false := by decide +kernel
  have hclose : Lexer.continuesWord quote = false := by
    rcases hquote with rfl | rfl <;> decide +kernel
  induction cs with
  | nil => exact .nil
  | cons c cs ih =>
      obtain ⟨hc, hcs⟩ := List.forall_mem_cons.mp h
      refine .plain ?_ ?_ (ih hcs)
      · rintro rfl
        rw [hclose] at hc
        cases hc
      · rintro rfl
        rw [hslash] at hc
        cases hc

/-- A step is cut off by itself, if it is no dotted index before another one. -/
theorem step_cuts (s : PathStep) {steps : List PathStep}
    (h : s.isDottedIndex = true → ∀ t ∈ steps.head?, t.isDottedIndex = false) :
    Cuts s.text s.lexemes (steps.flatMap (·.text)) := by
  have hdot : (['.'], Lexeme.dot) ∈ Lexer.signs := by simp [Lexer.signs]
  have hopen : (['['], Lexeme.openBracket) ∈ Lexer.signs := by simp [Lexer.signs]
  have hclose : Cuts [']'] [.closeBracket] (steps.flatMap (·.text)) :=
    .one (.sign (by simp [Lexer.signs])) trivial
  cases s with
  | dottedKey key =>
      exact .sign hdot trivial
        (.one (Lexer.spells_word key.isWord) (ends_word key.name steps))
  | quotedKey key quote hquote =>
      have hquoted := quoted_word hquote (Lexer.continues_of_isWord key.isWord)
      have hspells := Spells.str hquote hquoted
      rw [String.ofList_toList] at hspells
      have hkey := Cuts.cons hspells trivial hclose
      rw [List.cons_append, List.append_assoc] at hkey
      exact .sign hopen trivial hkey
  | dottedIndex i =>
      exact .sign hdot trivial
        (.one (.int i.digits i.fits) (ends_index i (h rfl)))
  | bracketedIndex i =>
      have hends : Ends (.num (.int i.digits.value))
          ([']'] ++ steps.flatMap (·.text)) :=
        .of_head (by decide) (by decide) (by decide +kernel) _ _
      exact .sign hopen trivial (.cons (.int i.digits i.fits) hends hclose)

/-- Two dotted indexes are cut off as a dot and a fraction. -/
theorem fraction_cuts (i j : WrittenIndex) (steps : List PathStep) :
    Cuts (PathStep.text (.dottedIndex i) ++ PathStep.text (.dottedIndex j))
      [.dot, .num (.float (fraction i j))] (steps.flatMap (·.text)) :=
  .sign (by simp [Lexer.signs]) trivial
    (.one (.float i.digits j.digits (nearest?_fraction i j))
      (ends_fraction _ steps))

/-- The steps of a path are cut into their lexemes, but for dotted indexes that
stand side by side. -/
theorem path_cuts (steps : List PathStep) :
    Cuts (steps.flatMap (·.text)) (pathLexemes steps) [] := by
  fun_induction pathLexemes steps with
  | case1 i j steps ih =>
      have hpair := fraction_cuts i j steps
      rw [← List.append_nil (steps.flatMap _)] at hpair
      rw [List.flatMap_cons, List.flatMap_cons, ← List.append_assoc]
      exact hpair.append ih
  | case2 s steps hpair ih =>
      have hstep : Cuts s.text s.lexemes (steps.flatMap (·.text)) := by
        refine step_cuts s fun hs t ht => Bool.eq_false_iff.mpr fun hindex => ?_
        obtain ⟨more, rfl⟩ := List.head?_eq_some_iff.mp ht
        cases s <;> cases hs
        cases t <;> cases hindex
        exact hpair _ _ more rfl rfl
      rw [← List.append_nil (steps.flatMap _)] at hstep
      rw [List.flatMap_cons]
      exact hstep.append ih
  | case3 => exact .nil []

-- ================================================================ neighbours

theorem apart_cons {s : PathStep} {steps : List PathStep} :
    Apart (s :: steps) ↔ (s.isDottedIndex = true →
      ∀ t ∈ steps.head?, t.isDottedIndex = false) ∧ Apart steps := by
  unfold Apart
  rw [List.isChain_cons]
  refine and_congr_left fun _ => ⟨fun h hs t ht => ?_, fun h t ht hboth => ?_⟩
  · exact Bool.eq_false_iff.mpr fun hindex => h t ht ⟨hs, hindex⟩
  · rw [h hboth.1 t ht] at hboth
    cases hboth.2

/-- A step that is no dotted index before another one keeps its lexemes. -/
theorem pathLexemes_cons {s : PathStep} {steps : List PathStep}
    (h : s.isDottedIndex = true → ∀ t ∈ steps.head?, t.isDottedIndex = false) :
    pathLexemes (s :: steps) = s.lexemes ++ pathLexemes steps := by
  rw [pathLexemes]
  rintro i j more rfl rfl
  cases h rfl _ rfl

theorem pathLexemes_append {before : List PathStep} {s : PathStep}
    (h : Apart (before ++ [s])) (after : List PathStep) :
    pathLexemes (before ++ s :: after)
      = before.flatMap (·.lexemes) ++ pathLexemes (s :: after) := by
  induction before with
  | nil => rfl
  | cons t before ih =>
      obtain ⟨hnext, hrest⟩ := apart_cons.mp h
      have hnext' : t.isDottedIndex = true →
          ∀ u ∈ (before ++ s :: after).head?, u.isDottedIndex = false := by
        cases before <;> exact hnext
      rw [List.cons_append, pathLexemes_cons hnext', ih hrest, List.flatMap_cons,
        List.append_assoc]

/-- Steps that are apart keep their lexemes. -/
theorem pathLexemes_of_apart {steps : List PathStep} (h : Apart steps) :
    pathLexemes steps = steps.flatMap (·.lexemes) := by
  induction steps with
  | nil => rfl
  | cons s steps ih =>
      obtain ⟨hnext, hrest⟩ := apart_cons.mp h
      rw [pathLexemes_cons hnext, ih hrest, List.flatMap_cons]

/-- If two dotted indexes stand side by side, then somewhere for the first
time. -/
theorem exists_first_pair {steps : List PathStep} (h : ¬ Apart steps) :
    ∃ before i j after,
      steps = before ++ .dottedIndex i :: .dottedIndex j :: after
        ∧ Apart (before ++ [.dottedIndex i]) := by
  induction steps with
  | nil => exact absurd List.isChain_nil h
  | cons s steps ih =>
      by_cases hnext : s.isDottedIndex = true →
          ∀ t ∈ steps.head?, t.isDottedIndex = false
      · have hrest : ¬ Apart steps := fun hrest => h (apart_cons.mpr ⟨hnext, hrest⟩)
        obtain ⟨before, i, j, after, rfl, hapart⟩ := ih hrest
        refine ⟨s :: before, i, j, after, rfl, apart_cons.mpr ⟨?_, hapart⟩⟩
        cases before <;> exact hnext
      · obtain ⟨hs, hpair⟩ := Classical.not_imp.mp hnext
        obtain ⟨t, hpair⟩ := not_forall.mp hpair
        obtain ⟨ht, hindex⟩ := Classical.not_imp.mp hpair
        obtain ⟨after, rfl⟩ := List.head?_eq_some_iff.mp ht
        cases s <;> cases hs
        cases t <;> simp [PathStep.isDottedIndex] at hindex
        exact ⟨[], _, _, after, rfl, List.isChain_singleton _⟩

-- ==================================================================== reading

/-- The fields of the context can be roots of paths. -/
theorem fieldNames_name {root : String} (h : root ∈ Context.fieldNames) :
    Lexer.isWord root.toList = true ∧ IsName root := by
  have hall : ∀ root ∈ Context.fieldNames, Lexer.isWord root.toList = true
      ∧ Parser.literal? root = none ∧ Parser.isKeyword root = false := by
    decide +kernel
  obtain ⟨hword, hname⟩ := hall root h
  exact ⟨hword, Parser.isName_iff.mpr hname⟩

theorem path_tokens {root : String} (h : Lexer.isWord root.toList = true)
    (steps : List PathStep) :
    ∃ ts, tokenize (pathText root steps) = .ok ts
      ∧ ts.map (·.lexeme) = .word root :: pathLexemes steps := by
  have hends := ends_word root steps
  rw [← List.append_nil (steps.flatMap _)] at hends
  obtain ⟨ts, hts, hcut⟩ := (Cuts.cons (Lexer.spells_word h) hends
    (path_cuts steps)).cut
  refine ⟨ts, tokenize_ok_iff.mpr ?_, hts⟩
  rw [pathText, String.toList_ofList]
  exact hcut

theorem steps_segments (steps : List PathStep) :
    Steps (steps.flatMap (·.lexemes)) (steps.map (·.segment)) := by
  induction steps with
  | nil => exact .nil
  | cons s steps ih =>
      rw [List.flatMap_cons, List.map_cons]
      exact .cons s.step ih

namespace Parser

variable {finish : Nat}

/-- A term that is refused and starts with neither a negation nor a minus is
refused as a whole condition. -/
theorem whole_refused {n p : Nat} {l : Lexeme} {ts : List Token} {f : SyntaxError}
    (hnot : isNot l = false) (hminus : l ≠ .minus)
    (h : term finish (level finish n) (⟨l, p⟩ :: ts) = .error f) :
    (level finish (n + 1)).whole (⟨l, p⟩ :: ts) = .error f := by
  have hunary := (unary_of_ne_minus hminus p ts).trans h
  have hnegation : negation finish (level finish n) (⟨l, p⟩ :: ts) = .error f := by
    rw [negation, hnot]
    show (unary finish (level finish n) (⟨l, p⟩ :: ts) >>= _) = _
    rw [hunary]
    rfl
  show ((negation finish (level finish n) (⟨l, p⟩ :: ts) >>= _) >>= _) = _
  rw [hnegation]
  rfl

/-- A condition that is one path is refused where its steps are. -/
theorem path_refused {root : String} (hroot : IsName root) {ts : List Token}
    (hcall : (lexemes ts).head? ≠ some .openParen) {f : SyntaxError}
    (h : segments finish ts = .error f) (p : Nat) :
    parseTokens finish (⟨.word root, p⟩ :: ts) = .error f := by
  obtain ⟨hliteral, hkeyword⟩ := isName_iff.mp hroot
  have hnot : isNot (.word root) = false := by
    simp [isNot, hroot.ne_not]
  rw [lexemes, List.head?_map] at hcall
  have hterm : term finish (level finish 63) (⟨.word root, p⟩ :: ts)
      = .error f := by
    rw [term, hliteral, hkeyword]
    simp only [if_neg hcall, Bool.false_eq_true, if_false, h]
    rfl
  have hminus : Lexeme.word root ≠ .minus := by simp
  exact parseTokens_refused (whole_refused hnot hminus hterm)

/-- Steps before a dot and a fraction are refused at the fraction. -/
theorem segments_fraction {text : List Lexeme} {steps : List Segment}
    (h : Steps text steps) {ts : List Token} {x : Binary64} {more : List Lexeme}
    (hts : lexemes ts = text ++ .dot :: .num (.float x) :: more) :
    ∃ place, segments finish ts
      = .error ⟨.expected .fieldName (some (.num (.float x))), place⟩ := by
  obtain ⟨front, us, rfl, hfront, hus⟩ := lexemes_eq_append hts
  obtain ⟨p, vs, rfl, hvs⟩ := lexemes_eq_cons hus
  obtain ⟨q, ws, rfl, -⟩ := lexemes_eq_cons hvs
  rw [segments_append h hfront]
  exact ⟨q, rfl⟩

end Parser

theorem pathLexemes_head (steps : List PathStep) :
    (pathLexemes steps).head? ≠ some .openParen := by
  fun_cases pathLexemes steps with
  | case1 => simp
  | case2 s => cases s <;> simp [PathStep.lexemes]
  | case3 => simp

/-- A path whose dotted indexes are apart is read as its steps. -/
theorem parse_of_apart {root : String} (hword : Lexer.isWord root.toList = true)
    (hname : IsName root) {steps : List PathStep} (h : Apart steps) :
    parse (pathText root steps) = .ok (.path root (steps.map (·.segment))) := by
  obtain ⟨ts, hts, hlexemes⟩ := path_tokens hword steps
  rw [pathLexemes_of_apart h] at hlexemes
  refine parse_ok_iff.mpr ⟨ts, hts, 1, by decide, ?_⟩
  rw [hlexemes]
  exact derives_whole (.unary (.path hname (steps_segments steps)))

/-- A path with two dotted indexes side by side is refused at the first two. -/
theorem parse_of_pair {root : String} (hword : Lexer.isWord root.toList = true)
    (hname : IsName root) {before : List PathStep} {i : WrittenIndex}
    (hapart : Apart (before ++ [.dottedIndex i])) (j : WrittenIndex)
    (after : List PathStep) :
    ∃ place, parse
        (pathText root (before ++ .dottedIndex i :: .dottedIndex j :: after))
      = .error ⟨.expected .fieldName (some (.num (.float (fraction i j)))),
        place⟩ := by
  obtain ⟨ts, hts, hlexemes⟩ := path_tokens hword
    (before ++ .dottedIndex i :: .dottedIndex j :: after)
  obtain ⟨p, us, rfl, hus⟩ := Parser.lexemes_eq_cons hlexemes
  have hcall : (Parser.lexemes us).head? ≠ some .openParen := by
    rw [hus]
    exact pathLexemes_head _
  rw [pathLexemes_append hapart, pathLexemes] at hus
  obtain ⟨place, hplace⟩ := Parser.segments_fraction (steps_segments before) hus
  refine ⟨place, ?_⟩
  rw [parse_of_tokens hts]
  exact Parser.path_refused hname hcall hplace p

/-- The text of a path of keys that are words and indexes below 2^63, each behind
a dot or between brackets in any mixture, is read as exactly that path if and only
if no two dotted indexes stand side by side. A path where two do is refused at the
first two: they were cut off as a fraction, and a fraction is no name of a
field. -/
theorem path_spelling {root : String} (hroot : root ∈ Context.fieldNames)
    (steps : List PathStep) :
    (parse (pathText root steps) = .ok (.path root (steps.map (·.segment)))
      ↔ Apart steps)
    ∧ (¬ Apart steps → ∃ before i j after place,
      steps = before ++ .dottedIndex i :: .dottedIndex j :: after
        ∧ Apart (before ++ [.dottedIndex i])
        ∧ parse (pathText root steps) = .error
          ⟨.expected .fieldName (some (.num (.float (fraction i j)))), place⟩) := by
  obtain ⟨hword, hname⟩ := fieldNames_name hroot
  have hrefused : ¬ Apart steps → ∃ before i j after place,
      steps = before ++ .dottedIndex i :: .dottedIndex j :: after
        ∧ Apart (before ++ [.dottedIndex i])
        ∧ parse (pathText root steps) = .error
          ⟨.expected .fieldName (some (.num (.float (fraction i j)))), place⟩ := by
    intro h
    obtain ⟨before, i, j, after, rfl, hapart⟩ := exists_first_pair h
    obtain ⟨place, hplace⟩ := parse_of_pair hword hname hapart j after
    exact ⟨before, i, j, after, place, rfl, hapart, hplace⟩
  refine ⟨⟨fun hread => ?_, parse_of_apart hword hname⟩, hrefused⟩
  by_contra h
  obtain ⟨_, _, _, _, _, -, -, hfault⟩ := hrefused h
  rw [hread] at hfault
  cases hfault

private def indexZero : WrittenIndex := .ofNat 0 (by norm_num)

private def indexOne : WrittenIndex := .ofNat 1 (by norm_num)

/-- A dotted index behind one between brackets, and before a quoted key. -/
theorem path_of_both_spellings :
    "tool_input" ∈ Context.fieldNames
      ∧ Apart [.bracketedIndex indexZero, .dottedIndex indexOne,
        .quotedKey ⟨"old", by decide +kernel⟩ '"' (Or.inl rfl)]
      ∧ parse "tool_input[0].1[\"old\"]"
        = .ok (.path "tool_input" [.index 0, .index 1, .key "old"]) := by
  have hroot : "tool_input" ∈ Context.fieldNames := by decide
  have hapart : Apart [.bracketedIndex indexZero, .dottedIndex indexOne,
      .quotedKey ⟨"old", by decide +kernel⟩ '"' (Or.inl rfl)] := by
    simp [Apart, PathStep.isDottedIndex]
  have hread := (path_spelling hroot _).1.mpr hapart
  have htext : pathText "tool_input" [.bracketedIndex indexZero,
      .dottedIndex indexOne, .quotedKey ⟨"old", by decide +kernel⟩ '"' (Or.inl rfl)]
      = "tool_input[0].1[\"old\"]" := by
    decide +kernel
  rw [htext] at hread
  exact ⟨hroot, hapart, hread⟩

/-- Not every spelling of a path is read: two dotted indexes side by side are
refused, though either of them may stand between brackets. -/
theorem neighbouring_dotted_indexes_are_refused :
    pathText "tool_input" [.dottedIndex indexZero, .dottedIndex indexOne]
        = "tool_input.0.1"
      ∧ (∃ x place, parse "tool_input.0.1"
        = .error ⟨.expected .fieldName (some (.num (.float x))), place⟩)
      ∧ parse "tool_input.0[1]" = .ok (.path "tool_input" [.index 0, .index 1])
      ∧ parse "tool_input[0].1"
        = .ok (.path "tool_input" [.index 0, .index 1]) := by
  have htext : pathText "tool_input" [.dottedIndex indexZero, .dottedIndex indexOne]
      = "tool_input.0.1" := by
    decide +kernel
  have hroot : "tool_input" ∈ Context.fieldNames := by decide
  obtain ⟨hword, hname⟩ := fieldNames_name hroot
  have hone : Apart ([] ++ [.dottedIndex indexZero]) := List.isChain_singleton _
  obtain ⟨place, hplace⟩ := parse_of_pair hword hname hone indexOne []
  rw [List.nil_append, htext] at hplace
  have hlater : Apart [.dottedIndex indexZero, .bracketedIndex indexOne] := by
    simp [Apart, PathStep.isDottedIndex]
  have hearlier : Apart [.bracketedIndex indexZero, .dottedIndex indexOne] := by
    simp [Apart, PathStep.isDottedIndex]
  have hread := parse_of_apart hword hname hlater
  have hread' := parse_of_apart hword hname hearlier
  rw [show pathText "tool_input" _ = "tool_input.0[1]" by decide +kernel] at hread
  rw [show pathText "tool_input" _ = "tool_input[0].1" by decide +kernel] at hread'
  exact ⟨htext, ⟨_, place, hplace⟩, hread, hread'⟩

end Condition

end HookRules
