/-
Values written as conditions.

Null, truth values, texts, integers and lists of these can be written in a
condition (`Plain`). `Written` says how: a word, digits with a minus before them
if the integer is negative, characters between two quotes, items between
brackets. In a text only the backslash and the quote that closes it are escaped;
every other character means itself.

# What a value is read as

A written value is cut into lexemes as long as a comma, a closing bracket or the
end stands behind it (`Closes`), and these are a whole condition whose tree has
the value (`Means`). A negative integer is no literal but the opposite of one,
and a list no literal but a list of conditions, so `levels` counts what they
open. Both are induction on how the value is written; the tail of a list is read
with the commas before its items, like the list itself.

Blanks may stand between the lexemes of a written value as between those of any
text.
-/
import HookRules.Proofs.Condition.Integers
import HookRules.Proofs.Condition.Spacing
import HookRules.Proofs.Json.PrintedNumber

namespace HookRules

namespace Condition

open Json (Digits)
open Lexer (Quoted IsQuote Spells Ends Cuts)
open Grammar

-- ===================================================================== values

/-- The values that conditions can write. -/
inductive Plain : Json → Prop where
  | null : Plain .null
  | bool (b : Bool) : Plain (.bool b)
  | str (s : String) : Plain (.str s)
  | int {i : Int} (hlow : -2 ^ 63 < i) (hhigh : i < 2 ^ 63) :
      Plain (.num (.int i))
  | arr {items : List Json} (h : ∀ v, v ∈ items → Plain v) : Plain (.arr items)

mutual

/-- The levels that a written value opens, its own included. -/
def levels : Json → Nat
  | .num (.int i) => if i < 0 then 2 else 1
  | .arr items => levelsOf items + 1
  | _ => 1

/-- The levels of the deepest item. -/
def levelsOf : List Json → Nat
  | [] => 0
  | v :: vs => max (levels v) (levelsOf vs)

end

/-- Characters with a backslash before each backslash and each quote. -/
def escaped (quote : Char) (cs : List Char) : List Char :=
  cs.flatMap fun c => if c = quote ∨ c = '\\' then ['\\', c] else [c]

/-- Written items with commas between them. -/
def listText : List (Json × List Char) → List Char
  | [] => []
  | i :: items => i.2 ++ items.flatMap fun j => ',' :: j.2

/-- How a value is written. -/
inductive Written : Json → List Char → Prop where
  | word {name : String} {v : Json} (h : (name, v) ∈ literalWords) :
      Written v name.toList
  | str {quote : Char} (hquote : IsQuote quote) (s : String) :
      Written (.str s) (quote :: (escaped quote s.toList ++ [quote]))
  | natural (ds : Digits) (h : ds.value < 2 ^ 63) :
      Written (.num (.int ds.value)) ds.chars
  | negative (ds : Digits) (hpos : 0 < ds.value) (h : ds.value < 2 ^ 63) :
      Written (.num (.int (-ds.value))) ('-' :: ds.chars)
  | arr (items : List (Json × List Char)) (h : ∀ i, i ∈ items → Written i.1 i.2) :
      Written (.arr (items.map (·.1))) ('[' :: (listText items ++ [']']))

/-- Every such value can be written. -/
theorem Plain.written {v : Json} (h : Plain v) : ∃ text, Written v text := by
  induction h with
  | null => exact ⟨_, @Written.word "null" _ (by simp [literalWords])⟩
  | bool b =>
      cases b with
      | false => exact ⟨_, @Written.word "false" _ (by simp [literalWords])⟩
      | true => exact ⟨_, @Written.word "true" _ (by simp [literalWords])⟩
  | str s => exact ⟨_, .str (Or.inl rfl) s⟩
  | @int i hlow hhigh =>
      have hvalue := Digits.value_ofNat i.natAbs
      by_cases hneg : i < 0
      · have hwritten := Written.negative (Digits.ofNat i.natAbs) (by omega)
          (by omega)
        rw [hvalue, show -(i.natAbs : Int) = i by omega] at hwritten
        exact ⟨_, hwritten⟩
      · have hwritten := Written.natural (Digits.ofNat i.natAbs) (by omega)
        rw [hvalue, show (i.natAbs : Int) = i by omega] at hwritten
        exact ⟨_, hwritten⟩
  | @arr items _ ih =>
      choose! text htext using ih
      have hwritten := Written.arr (items.map fun v => (v, text v)) (by
        intro i hi
        obtain ⟨v, hv, rfl⟩ := List.mem_map.mp hi
        exact htext v hv)
      rw [List.map_map, show Prod.fst ∘ (fun v => (v, text v)) = id from rfl,
        List.map_id] at hwritten
      exact ⟨_, hwritten⟩

-- ===================================================================== texts

/-- Escaped characters mean what they were. -/
theorem quoted_escaped {quote : Char} (hquote : IsQuote quote) (cs : List Char) :
    Quoted quote (escaped quote cs) cs := by
  induction cs with
  | nil => exact .nil
  | cons c cs ih =>
      rw [escaped, List.flatMap_cons]
      split
      · next hspecial =>
          have hself : Lexer.unescape c = c := by
            rcases hspecial with rfl | rfl
            · rcases hquote with rfl | rfl <;> rfl
            · rfl
          have hquoted := Quoted.escaped c ih
          rw [hself] at hquoted
          exact hquoted
      · next hplain =>
          obtain ⟨hclose, hslash⟩ := not_or.mp hplain
          exact .plain hclose hslash ih

/-- Behind a value there is nothing, a comma or a closing bracket. -/
def Closes (rest : List Char) : Prop := ∀ c ∈ rest.head?, c = ',' ∨ c = ']'

/-- What closes a value ends every lexeme, so the lexer stops there. -/
theorem Closes.ends {rest : List Char} (h : Closes rest) (l : Lexeme) :
    Ends l rest := by
  cases rest with
  | nil => exact .nil l
  | cons c rest =>
      rcases h c rfl with rfl | rfl
      · exact .of_head (by decide) (by decide) (by decide +kernel) l rest
      · exact .of_head (by decide) (by decide) (by decide +kernel) l rest

-- =================================================================== meanings

/-- Lexemes are a whole condition whose tree has a value everywhere. -/
structure Means (v : Json) (ls : List Lexeme) (e : Expr) : Prop where
  derives : Derives .whole (levels v) ls e
  value : ∀ r ctx, eval r ctx e = .ok v
  names : e.symbols = []

/-- Items are whole conditions whose trees have the values of a list. -/
structure Lists (values : List Json) (list : List Item) : Prop where
  derives : ∀ i, i ∈ list → Derives .whole i.nesting i.text i.tree
  deepest : deepest list = levelsOf values
  values : ∀ r ctx, evalList r ctx (list.map (·.tree)) = .ok values
  names : Expr.symbolsOf (list.map (·.tree)) = []

theorem Lists.nil : Lists [] [] := ⟨nofun, rfl, fun _ _ => rfl, rfl⟩

/-- A further item brings its own text, and the level that it needs counts only
if it is the deepest. -/
theorem Lists.cons {v : Json} {vs : List Json} {ls : List Lexeme} {e : Expr}
    {list : List Item} (h : Means v ls e) (hlist : Lists vs list) :
    Lists (v :: vs) (⟨levels v, ls, e⟩ :: list) := by
  constructor
  · exact List.forall_mem_cons.mpr ⟨h.derives, hlist.derives⟩
  · rw [Grammar.deepest, levelsOf, hlist.deepest]
  · intro r ctx
    rw [List.map_cons, evalList, h.value, hlist.values]
    rfl
  · rw [List.map_cons, Expr.symbolsOf, h.names, hlist.names]
    rfl

/-- An operand by itself is a whole condition, one level further out. -/
theorem derives_whole {n : Nat} {ls : List Lexeme} {e : Expr}
    (h : Derives .unary n ls e) : Derives .whole (n + 1) ls e :=
  .whole (.disjunction (.conjunction (.negation (.comparison h))))

/-- A value of one lexeme means itself. -/
theorem means_literal {v : Json} {l : Lexeme} (hlevels : levels v = 1)
    (h : Derives .term 0 [l] (.literal v)) : Means v [l] (.literal v) := by
  refine ⟨?_, fun _ _ => rfl, rfl⟩
  rw [hlevels]
  exact derives_whole (.unary h)

/-- The opposite of an integer that fits 64 bits with a sign is an integer, if it
is not the least one. -/
theorem opposite_int {k : Int} (h : -2 ^ 63 < k ∧ k < 2 ^ 63) :
    opposite (.int k) = .int (-k) := by
  have hleast : k ≠ -2 ^ 63 := by omega
  unfold opposite
  rw [int64?_of_fit ⟨Int.le_of_lt h.1, h.2⟩]
  exact if_neg hleast

/-- A negative integer is written as the opposite of a positive one and
evaluated to itself. -/
theorem means_negative {n : Nat} (hpos : 0 < n) (h : n < 2 ^ 63) :
    Means (.num (.int (-n))) [.minus, .num (.int n)]
      (.neg (.literal (.num (.int n)))) := by
  constructor
  · have hneg : -(n : Int) < 0 := by omega
    rw [levels, if_pos hneg]
    exact derives_whole (.neg (.unary (.num (.int n))))
  · intro r ctx
    show Except.ok (Json.num (opposite (.int n))) = _
    rw [opposite_int (by omega)]
  · rfl

/-- A list opens a level for its items. -/
theorem means_list {values : List Json} {list : List Item}
    (h : Lists values list) :
    Means (.arr values) (.openBracket :: (listed list ++ [.closeBracket]))
      (.list (list.map (·.tree))) := by
  constructor
  · rw [levels, ← h.deepest]
    exact derives_whole (.unary (.list list h.derives))
  · intro r ctx
    rw [eval, h.values]
    rfl
  · exact h.names

-- ==================================================================== reading

/-- The literals that are words are words to the lexer. -/
theorem isWord_literal {name : String} {v : Json} (h : (name, v) ∈ literalWords) :
    Lexer.isWord name.toList = true := by
  have hall : ∀ p ∈ literalWords, Lexer.isWord p.1.toList = true := by
    decide +kernel
  exact hall _ h

/-- They need one level, as every value without parts. -/
theorem levels_literal {name : String} {v : Json}
    (h : (name, v) ∈ literalWords) : levels v = 1 := by
  have hall : ∀ p ∈ literalWords, levels p.2 = 1 := by
    simp [literalWords, levels]
  exact hall _ h

/-- What a text is read as where a value may end. -/
def ReadsAs (v : Json) (text : List Char) (ls : List Lexeme) (e : Expr) : Prop :=
  Means v ls e ∧ ∀ rest, Closes rest → Cuts text ls rest

/-- Behind an item stands a comma, or what follows the items. -/
theorem Closes.tail {rest : List Char} (h : Closes rest)
    (items : List (Json × List Char)) :
    Closes ((items.flatMap fun i => ',' :: i.2) ++ rest) := by
  cases items with
  | nil => exact h
  | cons i items =>
      rintro c ⟨⟩
      exact Or.inl rfl

/-- Items after the first are read with their commas. -/
theorem tail_reads {items : List (Json × List Char)}
    (h : ∀ i ∈ items, ∃ ls e, ReadsAs i.1 i.2 ls e) :
    ∃ list, Lists (items.map (·.1)) list ∧ ∀ rest, Closes rest →
      Cuts (items.flatMap fun i => ',' :: i.2)
        (list.flatMap fun i => .comma :: i.text) rest := by
  induction items with
  | nil => exact ⟨[], .nil, fun rest _ => .nil rest⟩
  | cons i items ih =>
      obtain ⟨⟨ls, e, hmeans, hcuts⟩, hitems⟩ := List.forall_mem_cons.mp h
      obtain ⟨list, hlist, htail⟩ := ih hitems
      refine ⟨⟨levels i.1, ls, e⟩ :: list, hlist.cons hmeans, ?_⟩
      intro rest hrest
      rw [List.flatMap_cons, List.flatMap_cons]
      have hitem : Cuts (',' :: i.2) (.comma :: ls)
          ((items.flatMap fun i => ',' :: i.2) ++ rest) :=
        .sign (by simp [Lexer.signs]) trivial (hcuts _ (hrest.tail items))
      exact hitem.append (htail rest hrest)

/-- Items are read as a list of conditions. -/
theorem items_reads {items : List (Json × List Char)}
    (h : ∀ i ∈ items, ∃ ls e, ReadsAs i.1 i.2 ls e) :
    ∃ list, Lists (items.map (·.1)) list ∧ ∀ rest, Closes rest →
      Cuts (listText items) (listed list) rest := by
  cases items with
  | nil => exact ⟨[], .nil, fun rest _ => .nil rest⟩
  | cons i items =>
      obtain ⟨⟨ls, e, hmeans, hcuts⟩, hitems⟩ := List.forall_mem_cons.mp h
      obtain ⟨list, hlist, htail⟩ := tail_reads hitems
      refine ⟨⟨levels i.1, ls, e⟩ :: list, hlist.cons hmeans, ?_⟩
      intro rest hrest
      exact (hcuts _ (hrest.tail items)).append (htail rest hrest)

/-- A written value is read as a condition that has it. -/
theorem Written.reads {v : Json} {text : List Char} (h : Written v text) :
    ∃ ls e, ReadsAs v text ls e := by
  induction h with
  | @word name v hword =>
      refine ⟨_, _, means_literal (levels_literal hword) (.word hword), ?_⟩
      exact fun rest hrest =>
        .one (Lexer.spells_word (isWord_literal hword)) (hrest.ends _)
  | @str quote hquote s =>
      refine ⟨_, _, means_literal rfl (.str s), fun rest _ => ?_⟩
      have hspells := Spells.str hquote (quoted_escaped hquote s.toList)
      rw [String.ofList_toList] at hspells
      exact .one hspells trivial
  | natural ds hbound =>
      have hlevels : levels (.num (.int ds.value)) = 1 := by
        rw [levels, if_neg (Int.not_lt.mpr (Int.natCast_nonneg _))]
      refine ⟨_, _, means_literal hlevels (.num _), ?_⟩
      exact fun rest hrest => .one (.int ds hbound) (hrest.ends _)
  | negative ds hpos hbound =>
      refine ⟨_, _, means_negative hpos hbound, fun rest hrest => ?_⟩
      exact .sign (by simp [Lexer.signs]) trivial
        (.one (.int ds hbound) (hrest.ends _))
  | arr items _ ih =>
      obtain ⟨list, hlist, hcuts⟩ := items_reads ih
      refine ⟨_, _, means_list hlist, fun rest _ => ?_⟩
      have hclose : Closes (']' :: rest) := by
        rintro c ⟨⟩
        exact Or.inr rfl
      have hbody : Cuts (listText items ++ [']'])
          (listed list ++ [.closeBracket]) rest :=
        (hcuts _ hclose).append (.one (.sign (by simp [Lexer.signs])) trivial)
      exact .sign (by simp [Lexer.signs]) trivial hbody

/-- A written value may be left as it is. -/
theorem Written.widened {v : Json} {text : List Char} (h : Written v text) :
    Lexer.Widened text text := by
  obtain ⟨ls, e, -, hcuts⟩ := h.reads
  obtain ⟨ts, -, hcut⟩ := (hcuts [] nofun).cut
  exact hcut.widened

/-- A written value, with blanks between its lexemes or without, is cut into a
whole condition that has it. -/
theorem Written.tokens {v : Json} {text : List Char} (h : Written v text)
    {source : String} (hwide : Lexer.Widened text source.toList) :
    ∃ ts e, tokenize source = .ok ts ∧ Means v (ts.map (·.lexeme)) e
      ∧ Text.isBlankText source = false := by
  obtain ⟨ls, e, hmeans, hcuts⟩ := h.reads
  obtain ⟨ts, rfl, hcut⟩ := (hcuts [] nofun).cut
  obtain ⟨us, ts', hus, hcut', hsame⟩ := hwide.cut 0 0
  obtain rfl := hcut.unique hus
  rw [← hsame] at hmeans
  have hts := tokenize_ok_iff.mpr hcut'
  refine ⟨ts', e, hts, hmeans, ?_⟩
  rw [isBlankText_of_tokens hts]
  obtain ⟨l, more, hfirst, -⟩ := hmeans.derives.head
  cases ts' with
  | nil => cases hfirst
  | cons t ts' => rfl

/-- Every value of null, truth values, texts, integers above the least of 64 bits
and lists can be written as a condition. However it is written, and wherever
blanks are put between its lexemes, the condition is compiled and has exactly the
value, in every context and with every registry, if it opens no more levels than
are allowed. If it opens more, it is refused for that. -/
theorem written_value_is_read {v : Json} (hv : Plain v) :
    (∃ text, Written v text) ∧ ∀ text, Written v text →
      ∀ source : String, Lexer.Widened text source.toList →
        (levels v ≤ maxNesting → ∃ e, compile source = .ok ⟨source, some e⟩
          ∧ ∀ r ctx, eval r ctx e = .ok v)
        ∧ (maxNesting < levels v → ∃ place,
          compile source = .error ⟨source, .syntaxError ⟨.tooDeep, place⟩⟩) := by
  refine ⟨hv.written, fun text hwritten source hwide => ?_⟩
  obtain ⟨ts, e, hts, hmeans, hblank⟩ := hwritten.tokens hwide
  constructor
  · intro hlevels
    have hparse : parse source = .ok e :=
      parse_ok_iff.mpr ⟨ts, hts, levels v, hlevels, hmeans.derives⟩
    have hknown : ∀ s ∈ e.symbols, s.Known := by
      rw [hmeans.names]
      exact nofun
    exact ⟨e, compile_known hblank hparse hknown, hmeans.value⟩
  · intro hdeep
    obtain ⟨place, hplace⟩ := (Parser.whole_read hmeans.derives maxNesting).refuses
      hdeep
    refine ⟨place, compile_syntaxError hblank ?_⟩
    rw [parse_of_tokens hts]
    exact parseTokens_refused hplace

/-- A quote and a backslash before a letter inside a list, next to the least of the
integers that can be written. -/
theorem written_list_is_read :
    Plain (.arr [.num (.int (-9223372036854775807)), .str "it's \\n",
        .arr [.null]])
      ∧ ∃ e, compile "[-9223372036854775807,'it\\'s \\\\n',[null]]"
          = .ok ⟨"[-9223372036854775807,'it\\'s \\\\n',[null]]", some e⟩
        ∧ ∀ r ctx, eval r ctx e = .ok (.arr [.num (.int (-9223372036854775807)),
          .str "it's \\n", .arr [.null]]) := by
  have hinner : Plain (.arr [.null]) := .arr (by simp [Plain.null])
  have hplain : Plain (.arr [.num (.int (-9223372036854775807)), .str "it's \\n",
      .arr [.null]]) := by
    refine .arr ?_
    simp only [List.mem_cons, List.not_mem_nil, or_false, forall_eq_or_imp,
      forall_eq]
    exact ⟨.int (by omega) (by omega), .str _, hinner⟩
  have hnull : Written .null "null".toList :=
    @Written.word "null" _ (by simp [literalWords])
  have hlist : Written (.arr [.null]) "[null]".toList :=
    .arr [(.null, "null".toList)] (by simpa using hnull)
  have hwritten : Written (.arr [.num (.int (-9223372036854775807)),
      .str "it's \\n", .arr [.null]])
      "[-9223372036854775807,'it\\'s \\\\n',[null]]".toList := by
    refine .arr [(.num (.int (-9223372036854775807)), "-9223372036854775807".toList),
      (.str "it's \\n", "'it\\'s \\\\n'".toList),
      (.arr [.null], "[null]".toList)] ?_
    simp only [List.mem_cons, List.not_mem_nil, or_false, forall_eq_or_imp,
      forall_eq]
    refine ⟨?_, ?_, hlist⟩
    · have hneg := Written.negative (Digits.ofNat 9223372036854775807)
      rw [Digits.value_ofNat] at hneg
      exact hneg (by omega) (by omega)
    · exact .str (Or.inr rfl) "it's \\n"
  obtain ⟨-, hread⟩ := written_value_is_read hplain
  exact ⟨hplain, (hread _ hwritten _ hwritten.widened).1 (by decide)⟩

end Condition

end HookRules
