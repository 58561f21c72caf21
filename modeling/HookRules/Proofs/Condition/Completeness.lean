/-
What is derived is read, and conditions are unambiguous.

# Reading a phrase

`Reads` says what a reader that may open `k` levels makes of a phrase whose
derivation opens `n`. If `n` is at most `k` it takes the phrase and leaves the
rest; if not it refuses because of the nesting, and for no other reason. So one
induction over derivations settles both what is read and what is refused
(`phrase_read`), and a derivation has only one nesting.

# What follows a phrase

A reader takes as much as it can. A phrase is read up to its end only if what
follows does not go on with it, and how it can go on depends on the category:
any phrase with a path or a call, a comparison with an operator, a disjunction
with `and`, a whole condition with `or`. `Stops` says that nothing does, up to
the `reach` of a category.

# Connectives

The grammar is recursive on the left and the reader is a loop. `Stands` says
that the loop stands behind a phrase, with the tree of the phrase on its left
and the rest before it. One more operand takes it one round further
(`Stands.more`).
-/
import HookRules.Proofs.Condition.Soundness
import Mathlib

namespace HookRules

namespace Condition

namespace Parser

open Grammar

-- ================================================================= reading

/-- What a reader that may open `k` levels makes of a phrase that opens `n`. -/
structure Reads {α : Type} (k n : Nat) (a : α) (rest : List Token)
    (r : Except SyntaxError (α × List Token)) : Prop where
  reads : n ≤ k → r = .ok (a, rest)
  refuses : k < n → ∃ place, r = .error ⟨.tooDeep, place⟩

section Reads

variable {α β : Type} {k m n : Nat} {a : α} {b : β} {ts rest : List Token}
  {r : Except SyntaxError (α × List Token)}
  {use : α × List Token → Except SyntaxError (β × List Token)}

/-- A phrase that opens nothing. -/
theorem Reads.flat (h : r = .ok (a, rest)) : Reads k 0 a rest r :=
  ⟨fun _ => h, fun hk => absurd hk (Nat.not_lt_zero k)⟩

/-- One phrase after another opens as many levels as the deeper one. -/
theorem Reads.bind (h : Reads k m a ts r) (huse : Reads k n b rest (use (a, ts))) :
    Reads k (max m n) b rest (r >>= use) := by
  constructor
  · intro hmn
    rw [h.reads (by omega)]
    exact huse.reads (by omega)
  · intro hk
    by_cases hm : m ≤ k
    · rw [h.reads hm]
      exact huse.refuses (by omega)
    · obtain ⟨place, hplace⟩ := h.refuses (by omega)
      rw [hplace]
      exact ⟨place, rfl⟩

/-- What comes after a phrase opens nothing. -/
theorem Reads.andThen (h : Reads k m a ts r) (huse : use (a, ts) = .ok (b, rest)) :
    Reads k m b rest (r >>= use) := by
  have hboth := h.bind (n := 0) (.flat huse)
  rwa [Nat.max_eq_left (Nat.zero_le m)] at hboth

end Reads

section Levels

variable {finish : Nat}

/-- A reader of a level reads what its own reader reads, one level further in. -/
theorem reads_level (pick reader : Level → Reader Expr) {n : Nat} {e : Expr}
    {ts rest : List Token}
    (hzero : pick (level finish 0) = refuse finish)
    (hsucc : ∀ j, pick (level finish (j + 1)) = reader (level finish j))
    (h : ∀ j, Reads j n e rest (reader (level finish j) ts)) (k : Nat) :
    Reads k (n + 1) e rest (pick (level finish k) ts) := by
  cases k with
  | zero =>
      rw [hzero]
      exact ⟨nofun, fun _ => ⟨_, rfl⟩⟩
  | succ j =>
      rw [hsucc]
      exact ⟨fun hn => (h j).reads (by omega),
        fun hn => (h j).refuses (by omega)⟩

end Levels

-- =================================================================== tokens

theorem lexemes_eq_cons {ts : List Token} {l : Lexeme} {more : List Lexeme}
    (h : lexemes ts = l :: more) :
    ∃ p us, ts = ⟨l, p⟩ :: us ∧ lexemes us = more := by
  obtain ⟨t, us, rfl, rfl, hmore⟩ := List.map_eq_cons_iff.mp h
  exact ⟨t.position, us, rfl, hmore⟩

theorem lexemes_eq_nil {ts : List Token} (h : lexemes ts = []) : ts = [] :=
  List.map_eq_nil_iff.mp h

theorem lexemes_eq_append {ts : List Token} {left right : List Lexeme}
    (h : lexemes ts = left ++ right) :
    ∃ us vs, ts = us ++ vs ∧ lexemes us = left ∧ lexemes vs = right :=
  List.map_eq_append_iff.mp h

-- ==================================================== what follows a phrase

/-- How far a phrase of a category can go on into what follows it. -/
def reach : Category → Nat
  | .term | .unary => 0
  | .comparison | .negation | .conjunction => 1
  | .disjunction => 2
  | .whole => 3

/-- What follows does not go on with a phrase of a reach. -/
structure Stops (reach : Nat) (rest : List Token) : Prop where
  path : ∀ l ∈ (lexemes rest).head?,
    l ≠ .dot ∧ l ≠ .openBracket ∧ l ≠ .openParen
  compared : 1 ≤ reach → operator? rest = none
  conjoined : 2 ≤ reach → ∀ l ∈ (lexemes rest).head?, isAnd l = false
  disjoined : 3 ≤ reach → ∀ l ∈ (lexemes rest).head?, isOr l = false

namespace Stops

variable {v w p : Nat} {rest : List Token}

theorem mono (h : Stops w rest) (hv : v ≤ w) : Stops v rest :=
  ⟨h.path, fun hr => h.compared (by omega), fun hr => h.conjoined (by omega),
    fun hr => h.disjoined (by omega)⟩

/-- The end of the text. -/
theorem nil (w : Nat) : Stops w [] := ⟨nofun, fun _ => rfl, nofun, nofun⟩

/-- What follows an item. -/
theorem delimiter {l : Lexeme} (h : l = .comma ∨ l = .closeParen ∨ l = .closeBracket)
    (w : Nat) : Stops w (⟨l, p⟩ :: rest) := by
  rcases h with rfl | rfl | rfl <;>
    refine ⟨?_, fun _ => rfl, ?_, ?_⟩ <;> simp [isAnd, isOr]

/-- The sign of a disjunction ends its left side. -/
theorem orSign {l : Lexeme} (h : l ∈ orSigns) : Stops 2 (⟨l, p⟩ :: rest) := by
  simp only [orSigns, List.mem_cons, List.not_mem_nil, or_false] at h
  rcases h with rfl | rfl <;>
    refine ⟨?_, fun _ => by simp [operator?], ?_,
      fun hr => absurd hr (by decide)⟩ <;> simp [isAnd]

/-- The sign of a conjunction ends its left side. -/
theorem andSign {l : Lexeme} (h : l ∈ andSigns) : Stops 1 (⟨l, p⟩ :: rest) := by
  simp only [andSigns, List.mem_cons, List.not_mem_nil, or_false] at h
  rcases h with rfl | rfl <;>
    refine ⟨?_, fun _ => by simp [operator?], fun hr => absurd hr (by decide),
      fun hr => absurd hr (by decide)⟩ <;> simp

/-- An operator ends its left side. -/
theorem operator {front : List Token} {op : Operator} (rest : List Token)
    (h : lexemes front = operatorText op) : Stops 0 (front ++ rest) := by
  refine ⟨?_, nofun, nofun, nofun⟩
  rw [lexemes_append, h]
  cases op <;> simp [operatorText]

end Stops

/-- A written operator is read. -/
theorem operator?_text {front rest : List Token} {op : Operator}
    (h : lexemes front = operatorText op) :
    operator? (front ++ rest) = some (op, rest) := by
  cases op
  case notMem =>
    obtain ⟨p, us, rfl, hus⟩ := lexemes_eq_cons h
    obtain ⟨q, vs, rfl, hvs⟩ := lexemes_eq_cons hus
    rw [lexemes_eq_nil hvs]
    rfl
  all_goals
    obtain ⟨p, us, rfl, hus⟩ := lexemes_eq_cons h
    rw [lexemes_eq_nil hus]
    rfl

-- ==================================================================== paths

section Readers

variable {finish : Nat}

/-- Without a dot or a bracket a path has no further steps. -/
theorem segments_stop {rest : List Token} (h : Stops 0 rest) :
    segments finish rest = .ok ([], rest) := by
  have hpath := h.path
  unfold segments
  split <;> first | rfl | simp at hpath

/-- Steps that are written are read before whatever follows them. -/
theorem segments_append {text : List Lexeme} {steps : List Segment}
    (h : Steps text steps) {front : List Token} (hfront : lexemes front = text)
    (rest : List Token) :
    segments finish (front ++ rest) = do
      let (more, us) ← segments finish rest
      return (steps ++ more, us) := by
  induction h generalizing front with
  | nil =>
      rw [lexemes_eq_nil hfront, List.nil_append]
      exact (bind_pure (segments finish rest)).symm
  | cons hstep _ ih =>
      obtain ⟨own, more, rfl, hown, hmore⟩ := lexemes_eq_append hfront
      have hih := ih hmore
      rw [List.append_assoc]
      -- one step before the steps behind it
      have hone : ∀ {s : Segment} {steps : List Segment},
          (segments finish (more ++ rest) = do
            let (later, us) ← segments finish rest
            return (steps ++ later, us)) →
          (do
            let (later, us) ← segments finish (more ++ rest)
            return (s :: later, us))
          = (do
            let (later, us) ← segments finish rest
            return (s :: steps ++ later, us)) := by
        intro s steps hread
        rw [hread]
        cases segments finish rest <;> rfl
      cases hstep with
      | field name =>
          obtain ⟨p, us, rfl, hus⟩ := lexemes_eq_cons hown
          obtain ⟨q, vs, rfl, hvs⟩ := lexemes_eq_cons hus
          rw [lexemes_eq_nil hvs]
          exact hone hih
      | place i =>
          obtain ⟨p, us, rfl, hus⟩ := lexemes_eq_cons hown
          obtain ⟨q, vs, rfl, hvs⟩ := lexemes_eq_cons hus
          rw [lexemes_eq_nil hvs]
          exact hone hih
      | key name =>
          obtain ⟨p, us, rfl, hus⟩ := lexemes_eq_cons hown
          obtain ⟨q, vs, rfl, hvs⟩ := lexemes_eq_cons hus
          obtain ⟨r, ws, rfl, hws⟩ := lexemes_eq_cons hvs
          rw [lexemes_eq_nil hws]
          exact hone hih
      | index i =>
          obtain ⟨p, us, rfl, hus⟩ := lexemes_eq_cons hown
          obtain ⟨q, vs, rfl, hvs⟩ := lexemes_eq_cons hus
          obtain ⟨r, ws, rfl, hws⟩ := lexemes_eq_cons hvs
          rw [lexemes_eq_nil hws]
          exact hone hih
      | fromEnd i =>
          obtain ⟨p, us, rfl, hus⟩ := lexemes_eq_cons hown
          obtain ⟨q, vs, rfl, hvs⟩ := lexemes_eq_cons hus
          obtain ⟨r, ws, rfl, hws⟩ := lexemes_eq_cons hvs
          obtain ⟨s, xs, rfl, hxs⟩ := lexemes_eq_cons hws
          rw [lexemes_eq_nil hxs]
          exact hone hih

/-- The steps of a path are read. -/
theorem segments_read {text : List Lexeme} {steps : List Segment}
    (h : Steps text steps) {front rest : List Token}
    (hfront : lexemes front = text) (hrest : Stops 0 rest) :
    segments finish (front ++ rest) = .ok (steps, rest) := by
  rw [segments_append h hfront, segments_stop hrest]
  show Except.ok (steps ++ [], rest) = _
  rw [List.append_nil]

-- ==================================================================== items

/-- A reader reads an item, whatever ends it. -/
def ReadsItem (k : Nat) (item : Reader Expr) (i : Item) : Prop :=
  ∀ {front rest : List Token}, lexemes front = i.text → Stops 3 rest →
    Reads k i.nesting i.tree rest (item (front ++ rest))

section Items

variable {k p : Nat} {item : Reader Expr} {close : Lexeme} {w : Wanted}
  {rest : List Token}

theorem expect_read (l : Lexeme) (w : Wanted) (p : Nat) (rest : List Token) :
    expect finish l w (⟨l, p⟩ :: rest) = .ok rest := by
  simp [expect]

/-- Every item after the first has its comma. -/
theorem length_le_flatMap (items : List Item) :
    items.length ≤ (items.flatMap fun i => Lexeme.comma :: i.text).length := by
  induction items with
  | nil => exact Nat.le_refl 0
  | cons i items ih =>
      simp only [List.flatMap_cons, List.length_append, List.length_cons]
      omega

/-- Items after the first are read up to the lexeme that closes them. -/
theorem moreItems_read (hclose : close = .closeParen ∨ close = .closeBracket)
    {items : List Item} (hitems : ∀ i ∈ items, ReadsItem k item i)
    {fuel : Nat} (hfuel : items.length ≤ fuel) {front : List Token}
    (hfront : lexemes front = items.flatMap fun i => .comma :: i.text) :
    Reads k (deepest items) (items.map (·.tree)) rest
      (moreItems finish item close w fuel (front ++ ⟨close, p⟩ :: rest)) := by
  induction items generalizing fuel front with
  | nil =>
      rw [lexemes_eq_nil hfront, List.nil_append]
      refine .flat ?_
      unfold moreItems
      split
      · next heq =>
          rcases hclose with rfl | rfl <;> cases heq
      · rw [expect_read]
        rfl
  | cons i items ih =>
      obtain ⟨hi, hitems⟩ := List.forall_mem_cons.mp hitems
      rw [List.flatMap_cons, List.cons_append] at hfront
      obtain ⟨q, us, rfl, hus⟩ := lexemes_eq_cons hfront
      obtain ⟨own, more, rfl, hown, hmore⟩ := lexemes_eq_append hus
      -- behind the item stands a comma or the closing lexeme
      have hstops : Stops 3 (more ++ ⟨close, p⟩ :: rest) := by
        cases items with
        | nil =>
            rw [lexemes_eq_nil hmore]
            exact .delimiter (Or.inr hclose) 3
        | cons j items =>
            obtain ⟨r, vs, rfl, -⟩ := lexemes_eq_cons hmore
            exact .delimiter (Or.inl rfl) 3
      cases fuel with
      | zero => cases hfuel
      | succ fuel =>
          rw [List.cons_append, List.append_assoc, moreItems]
          refine (hi hown hstops).bind ?_
          exact (ih hitems (by simpa using hfuel) hmore).andThen rfl

/-- Items are read up to the lexeme that closes them. -/
theorem items_read (hclose : close = .closeParen ∨ close = .closeBracket)
    {list : List Item} (hlist : ∀ i ∈ list, ReadsItem k item i)
    (hhead : ∀ i ∈ list, ∃ l more, i.text = l :: more ∧ l ≠ close)
    {front : List Token} (hfront : lexemes front = listed list) :
    Reads k (deepest list) (list.map (·.tree)) rest
      (items finish item close w (front ++ ⟨close, p⟩ :: rest)) := by
  cases list with
  | nil =>
      rw [lexemes_eq_nil hfront, List.nil_append]
      refine .flat ?_
      simp [items]
  | cons i list =>
      obtain ⟨hi, hlist⟩ := List.forall_mem_cons.mp hlist
      obtain ⟨⟨l, own', htext, hl⟩, -⟩ := List.forall_mem_cons.mp hhead
      obtain ⟨own, more, rfl, hown, hmore⟩ := lexemes_eq_append hfront
      have hne : ((own ++ (more ++ ⟨close, p⟩ :: rest)).head?.map (·.lexeme))
          ≠ some close := by
        rw [htext] at hown
        obtain ⟨q, us, rfl, -⟩ := lexemes_eq_cons hown
        simpa using hl
      have hstops : Stops 3 (more ++ ⟨close, p⟩ :: rest) := by
        cases list with
        | nil =>
            rw [lexemes_eq_nil hmore]
            exact .delimiter (Or.inr hclose) 3
        | cons j list =>
            obtain ⟨r, vs, rfl, -⟩ := lexemes_eq_cons hmore
            exact .delimiter (Or.inl rfl) 3
      have hfuel : list.length ≤ (more ++ ⟨close, p⟩ :: rest).length := by
        have hcommas := length_le_flatMap list
        rw [← hmore] at hcommas
        simp only [lexemes, List.length_map] at hcommas
        rw [List.length_append]
        omega
      rw [List.append_assoc]
      unfold items
      dsimp only
      rw [if_neg hne]
      refine (hi hown hstops).bind ?_
      exact (moreItems_read hclose hlist hfuel hmore).andThen rfl

end Items

-- ============================================================== connectives

/-- The loop of a connective stands behind a phrase that opens `n` levels, or it
was refused because of them. -/
structure Stands (operand : Reader Expr) (isJoint : Lexeme → Bool)
    (join : Expr → Expr → Expr) (k n : Nat) (e : Expr) (rest : List Token)
    (r : Except SyntaxError (Expr × List Token)) : Prop where
  stands : n ≤ k → ∃ fuel, rest.length ≤ fuel
    ∧ r = joined operand isJoint join fuel e rest
  refuses : k < n → ∃ place, r = .error ⟨.tooDeep, place⟩

section Chain

variable {operand : Reader Expr} {isJoint : Lexeme → Bool}
  {join : Expr → Expr → Expr} {k m n : Nat} {e f : Expr} {ts rest : List Token}
  {r : Except SyntaxError (Expr × List Token)}

/-- After the first operand the loop stands behind it. -/
theorem Stands.first (h : Reads k n e rest (operand ts)) :
    Stands operand isJoint join k n e rest
      (chain operand isJoint join ts) := by
  constructor
  · intro hn
    refine ⟨rest.length, Nat.le_refl _, ?_⟩
    unfold chain
    rw [h.reads hn]
    rfl
  · intro hk
    obtain ⟨place, hplace⟩ := h.refuses hk
    unfold chain
    rw [hplace]
    exact ⟨place, rfl⟩

/-- One more operand takes the loop one round further. -/
theorem Stands.more {t : Token} {front : List Token}
    (h : Stands operand isJoint join k m e (t :: (front ++ rest)) r)
    (hjoint : isJoint t.lexeme = true)
    (hoperand : Reads k n f rest (operand (front ++ rest))) :
    Stands operand isJoint join k (max m n) (join e f) rest r := by
  by_cases hm : m ≤ k
  · obtain ⟨fuel, hfuel, hr⟩ := h.stands hm
    rw [List.length_cons, List.length_append] at hfuel
    obtain ⟨fuel, rfl⟩ : ∃ fuel', fuel = fuel' + 1 := ⟨fuel - 1, by omega⟩
    rw [joined, if_pos hjoint] at hr
    constructor
    · intro hk
      rw [hoperand.reads (by omega)] at hr
      exact ⟨fuel, by omega, hr⟩
    · intro hk
      obtain ⟨place, hplace⟩ := hoperand.refuses (by omega)
      rw [hplace] at hr
      exact ⟨place, hr⟩
  · exact ⟨fun hk => by omega, fun _ => h.refuses (by omega)⟩

/-- The loop ends before anything that does not join. -/
theorem Stands.ends (h : Stands operand isJoint join k n e rest r)
    (hrest : ∀ l ∈ (lexemes rest).head?, isJoint l = false) :
    Reads k n e rest r := by
  refine ⟨fun hn => ?_, h.refuses⟩
  obtain ⟨fuel, -, hr⟩ := h.stands hn
  rw [hr]
  cases rest with
  | nil => cases fuel <;> rfl
  | cons t rest =>
      have ht : isJoint t.lexeme = false := hrest _ (by simp)
      cases fuel with
      | zero => rfl
      | succ fuel =>
          rw [joined, ht]
          rfl

end Chain

-- ================================================================== phrases

/-- What the reader of a category makes of a phrase. -/
def Read (finish : Nat) (c : Category) (n : Nat) (e : Expr) (k : Nat)
    (ts rest : List Token) : Prop :=
  let inner := level finish k
  match c with
  | .whole => Reads k n e rest (inner.whole ts)
  | .disjunction => Stands (conjunction finish inner) isOr .or k n e rest
      (disjunction finish inner ts)
  | .conjunction => Stands (negation finish inner) isAnd .and k n e rest
      (conjunction finish inner ts)
  | .negation => Reads k n e rest (negation finish inner ts)
  | .comparison => Reads k n e rest (comparison finish inner ts)
  | .unary => Reads k n e rest (unary finish inner ts)
  | .term => Reads k n e rest (term finish inner ts)

/-- The first token of a phrase. -/
theorem front_head {c : Category} {n : Nat} {text : List Lexeme} {e : Expr}
    (h : Derives c n text e) {front : List Token}
    (hfront : lexemes front = text) :
    ∃ l p us, front = ⟨l, p⟩ :: us ∧ Leads c l := by
  obtain ⟨l, more, rfl, hl⟩ := h.head
  obtain ⟨p, us, rfl, -⟩ := lexemes_eq_cons hfront
  exact ⟨l, p, us, rfl, hl⟩

/-- Items do not start with a closing lexeme. -/
theorem items_head {list : List Item} {close : Lexeme}
    (hclose : close = .closeParen ∨ close = .closeBracket)
    (h : ∀ i, i ∈ list → Derives .whole i.nesting i.text i.tree) :
    ∀ i ∈ list, ∃ l more, i.text = l :: more ∧ l ≠ close := by
  intro i hi
  obtain ⟨l, more, htext, hl⟩ := (h i hi).head
  refine ⟨l, more, htext, ?_⟩
  rcases hclose with rfl | rfl
  · exact hl.opens.1
  · exact hl.opens.2

/-- Arguments are read with their parentheses. -/
theorem arguments_read {k p q : Nat} {list : List Item}
    (h : ∀ i, i ∈ list → Derives .whole i.nesting i.text i.tree)
    (hlist : ∀ i ∈ list, ReadsItem k (level finish k).whole i)
    {front rest : List Token} (hfront : lexemes front = listed list) :
    Reads k (deepest list) (list.map (·.tree)) rest
      (arguments finish (level finish k)
        (⟨.openParen, p⟩ :: (front ++ ⟨.closeParen, q⟩ :: rest))) := by
  unfold arguments
  rw [expect_read]
  exact items_read (Or.inl rfl) hlist (items_head (Or.inl rfl) h) hfront

/-- A list is read up to its bracket. -/
theorem list_read {k : Nat} {list : List Item}
    (h : ∀ i, i ∈ list → Derives .whole i.nesting i.text i.tree)
    (hlist : ∀ i ∈ list, ReadsItem k (level finish k).whole i)
    {front rest : List Token}
    (hfront : lexemes front
      = .openBracket :: (listed list ++ [.closeBracket])) :
    Reads k (deepest list) (.list (list.map (·.tree))) rest
      (term finish (level finish k) (front ++ rest)) := by
  obtain ⟨p, us, rfl, hus⟩ := lexemes_eq_cons hfront
  obtain ⟨own, vs, rfl, hown, hvs⟩ := lexemes_eq_append hus
  obtain ⟨q, ws, rfl, hws⟩ := lexemes_eq_cons hvs
  have hitems : Reads k (deepest list) (list.map (·.tree)) rest
      (items finish (level finish k).whole .closeBracket .closeBracket
        (own ++ ⟨.closeBracket, q⟩ :: rest)) :=
    items_read (Or.inr rfl) hlist (items_head (Or.inr rfl) h) hown
  rw [lexemes_eq_nil hws, List.cons_append, List.append_assoc, term]
  exact hitems.andThen rfl

/-- A call with a dollar sign is read, whatever the word after the sign. -/
theorem dollarCall_read {k : Nat} {name : String} {list : List Item}
    (h : ∀ i, i ∈ list → Derives .whole i.nesting i.text i.tree)
    (hlist : ∀ i ∈ list, ReadsItem k (level finish k).whole i)
    {front rest : List Token}
    (hfront : lexemes front
      = .dollar :: .word name :: .openParen :: (listed list ++ [.closeParen])) :
    Reads k (deepest list) (.call name (list.map (·.tree))) rest
      (term finish (level finish k) (front ++ rest)) := by
  obtain ⟨p, us, rfl, hus⟩ := lexemes_eq_cons hfront
  obtain ⟨q, vs, rfl, hvs⟩ := lexemes_eq_cons hus
  obtain ⟨r, ws, rfl, hws⟩ := lexemes_eq_cons hvs
  obtain ⟨own, xs, rfl, hown, hxs⟩ := lexemes_eq_append hws
  obtain ⟨s, ys, rfl, hys⟩ := lexemes_eq_cons hxs
  rw [lexemes_eq_nil hys, List.cons_append, List.cons_append, List.cons_append,
    List.append_assoc, term]
  exact (arguments_read h hlist hown).andThen rfl

/-- A call without a dollar sign is read if its word is a name. -/
theorem call_read {k : Nat} {name : String} (hname : IsName name)
    {list : List Item}
    (h : ∀ i, i ∈ list → Derives .whole i.nesting i.text i.tree)
    (hlist : ∀ i ∈ list, ReadsItem k (level finish k).whole i)
    {front rest : List Token}
    (hfront : lexemes front
      = .word name :: .openParen :: (listed list ++ [.closeParen])) :
    Reads k (deepest list) (.call name (list.map (·.tree))) rest
      (term finish (level finish k) (front ++ rest)) := by
  obtain ⟨p, us, rfl, hus⟩ := lexemes_eq_cons hfront
  obtain ⟨q, vs, rfl, hvs⟩ := lexemes_eq_cons hus
  obtain ⟨own, ws, rfl, hown, hws⟩ := lexemes_eq_append hvs
  obtain ⟨r, xs, rfl, hxs⟩ := lexemes_eq_cons hws
  obtain ⟨hliteral, hkeyword⟩ := isName_iff.mp hname
  rw [lexemes_eq_nil hxs, List.cons_append, List.cons_append,
    List.append_assoc, term, hliteral, hkeyword]
  exact (arguments_read h hlist hown).andThen rfl

/-- A path is read as far as its steps go. -/
theorem path_read {root : String} (hroot : IsName root) {text : List Lexeme}
    {steps : List Segment} (hsteps : Steps text steps) {inner : Level}
    {front rest : List Token} (hfront : lexemes front = .word root :: text)
    (hrest : Stops 0 rest) :
    term finish inner (front ++ rest) = .ok (.path root steps, rest) := by
  obtain ⟨p, us, rfl, hus⟩ := lexemes_eq_cons hfront
  obtain ⟨hliteral, hkeyword⟩ := isName_iff.mp hroot
  -- the root is not followed by arguments
  have hcall : (us ++ rest).head?.map (·.lexeme) ≠ some .openParen := by
    cases hsteps with
    | nil =>
        rw [lexemes_eq_nil hus, List.nil_append]
        intro hopen
        rw [← List.head?_map] at hopen
        exact (hrest.path _ hopen).2.2 rfl
    | cons hstep _ =>
        obtain ⟨own, more, rfl, hown, -⟩ := lexemes_eq_append hus
        cases hstep <;>
          · obtain ⟨q, vs, rfl, -⟩ := lexemes_eq_cons hown
            simp
  rw [List.cons_append, term, hliteral, hkeyword]
  simp only [if_neg hcall, Bool.false_eq_true, if_false,
    segments_read hsteps hus hrest]
  rfl

/-- Every phrase is read up to its end where nothing goes on with it, and
refused only if it opens too many levels. -/
theorem phrase_read {c : Category} {n : Nat} {text : List Lexeme} {e : Expr}
    (h : Derives c n text e) (k : Nat) {front rest : List Token}
    (hfront : lexemes front = text) (hrest : Stops (reach c) rest) :
    Read finish c n e k (front ++ rest) rest := by
  induction h generalizing k front rest with
  | whole _ ih =>
      refine reads_level (·.whole) (disjunction finish) rfl (fun _ => rfl) ?_ k
      intro j
      exact (ih j hfront (hrest.mono (by decide))).ends (hrest.disjoined (by decide))
  | disjunction _ ih =>
      have hread := ih k hfront (hrest.mono (by decide))
      exact .first (hread.ends (hrest.conjoined (by decide)))
  | or _ hs _ ihl ihr =>
      obtain ⟨left, us, rfl, hleft, hus⟩ := lexemes_eq_append hfront
      obtain ⟨p, right, rfl, hright⟩ := lexemes_eq_cons hus
      rw [List.append_assoc, List.cons_append]
      have hread := ihr k hright (hrest.mono (by decide))
      exact (ihl k hleft (.orSign hs)).more (isOr_iff.mpr hs)
        (hread.ends (hrest.conjoined (by decide)))
  | conjunction _ ih => exact .first (ih k hfront hrest)
  | and _ hs _ ihl ihr =>
      obtain ⟨left, us, rfl, hleft, hus⟩ := lexemes_eq_append hfront
      obtain ⟨p, right, rfl, hright⟩ := lexemes_eq_cons hus
      rw [List.append_assoc, List.cons_append]
      exact (ihl k hleft (.andSign hs)).more (isAnd_iff.mpr hs)
        (ihr k hright hrest)
  | negation hder ih =>
      have hread := ih k hfront hrest
      obtain ⟨l, p, us, rfl, hl⟩ := front_head hder hfront
      have hnot : isNot l = false :=
        Bool.eq_false_iff.mpr fun hnot =>
          hl.notNegated (Or.inl rfl) (isNot_iff.mp hnot)
      show Reads _ _ _ _ (negation _ _ (⟨l, p⟩ :: (us ++ rest)))
      rw [negation, hnot]
      exact hread
  | not hs _ ih =>
      obtain ⟨p, us, rfl, hus⟩ := lexemes_eq_cons hfront
      have hread := reads_level (·.negated) (negation finish) rfl
        (fun _ => rfl) (fun j => ih j hus hrest) k
      show Reads _ _ _ _ (negation _ _ (⟨_, p⟩ :: (us ++ rest)))
      rw [negation, if_pos (isNot_iff.mpr hs)]
      exact hread.andThen rfl
  | comparison _ ih =>
      have hread := ih k hfront (hrest.mono (by decide))
      refine hread.andThen ?_
      dsimp only
      rw [hrest.compared (by decide)]
      rfl
  | compare op _ _ ihl ihr =>
      obtain ⟨left, us, rfl, hleft, hus⟩ := lexemes_eq_append hfront
      obtain ⟨sign, right, rfl, hsign, hright⟩ := lexemes_eq_append hus
      rw [List.append_assoc, List.append_assoc]
      have hreadl := ihl k hleft (.operator (right ++ rest) hsign)
      have hreadr := ihr k hright (hrest.mono (by decide))
      refine hreadl.bind ?_
      dsimp only
      rw [operator?_text hsign]
      exact hreadr.andThen rfl
  | unary hder ih =>
      have hread := ih k hfront hrest
      obtain ⟨l, p, us, rfl, hl⟩ := front_head hder hfront
      show Reads _ _ _ _ (unary _ _ (⟨l, p⟩ :: (us ++ rest)))
      unfold unary
      split
      · next heq =>
          cases heq
          exact absurd rfl (hl.notOpposite rfl)
      · exact hread
  | neg _ ih =>
      obtain ⟨p, us, rfl, hus⟩ := lexemes_eq_cons hfront
      have hread := reads_level (·.opposite) (unary finish) rfl
        (fun _ => rfl) (fun j => ih j hus hrest) k
      show Reads _ _ _ _ (unary _ _ (⟨.minus, p⟩ :: (us ++ rest)))
      rw [unary]
      exact hread.andThen rfl
  | str s =>
      obtain ⟨p, us, rfl, hus⟩ := lexemes_eq_cons hfront
      rw [lexemes_eq_nil hus]
      exact .flat rfl
  | num n =>
      obtain ⟨p, us, rfl, hus⟩ := lexemes_eq_cons hfront
      rw [lexemes_eq_nil hus]
      exact .flat rfl
  | word hword =>
      obtain ⟨p, us, rfl, hus⟩ := lexemes_eq_cons hfront
      rw [lexemes_eq_nil hus]
      refine .flat ?_
      show term _ _ (⟨.word _, p⟩ :: rest) = _
      rw [term, literal?_eq_some.mpr hword]
  | group _ ih =>
      obtain ⟨p, us, rfl, hus⟩ := lexemes_eq_cons hfront
      obtain ⟨own, vs, rfl, hown, hvs⟩ := lexemes_eq_append hus
      obtain ⟨q, ws, rfl, hws⟩ := lexemes_eq_cons hvs
      have hstops : Stops 3 (⟨.closeParen, q⟩ :: rest) :=
        .delimiter (Or.inr (Or.inl rfl)) 3
      have hread := ih k hown hstops
      rw [lexemes_eq_nil hws]
      show Reads _ _ _ _ (term _ _ (⟨.openParen, p⟩ :: (own ++ [_] ++ rest)))
      rw [term, List.append_assoc]
      refine hread.andThen ?_
      dsimp only
      rw [expect_read]
      rfl
  | list items hder ih =>
      exact list_read hder (fun i hi _ _ => ih i hi k) hfront
  | dollarCall name items hder ih =>
      exact dollarCall_read hder (fun i hi _ _ => ih i hi k) hfront
  | call hname items hder ih =>
      exact call_read hname hder (fun i hi _ _ => ih i hi k) hfront
  | path hroot hsteps => exact .flat (path_read hroot hsteps hfront hrest)

end Readers

-- =========================================================== whole conditions

/-- The tokens of a whole condition are used up, or it is too deep. -/
theorem whole_read {finish n : Nat} {ts : List Token} {e : Expr}
    (h : Derives .whole n (lexemes ts) e) (k : Nat) :
    Reads k n e [] ((level finish k).whole ts) := by
  have hread : Reads k n e [] ((level finish k).whole (ts ++ [])) :=
    phrase_read h k rfl (.nil 3)
  rwa [List.append_nil] at hread

end Parser

/-- A text is a whole condition by one nesting and with one tree. -/
theorem Grammar.Derives.unique {m n : Nat} {text : List Lexeme} {e f : Expr}
    (he : Grammar.Derives .whole m text e)
    (hf : Grammar.Derives .whole n text f) : m = n ∧ e = f := by
  -- the tokens of a text may stand anywhere
  obtain ⟨ts, rfl⟩ : ∃ ts, Parser.lexemes ts = text := by
    refine ⟨text.map (⟨·, 0⟩), ?_⟩
    rw [Parser.lexemes, List.map_map]
    exact List.map_id text
  have hm := fun k => @Parser.whole_read 0 m ts e he k
  have hn := fun k => @Parser.whole_read 0 n ts f hf k
  constructor
  · rcases Nat.lt_trichotomy m n with hlt | heq | hgt
    · obtain ⟨place, hplace⟩ := (hn m).refuses hlt
      rw [(hm m).reads (Nat.le_refl m)] at hplace
      cases hplace
    · exact heq
    · obtain ⟨place, hplace⟩ := (hm n).refuses hgt
      rw [(hn n).reads (Nat.le_refl n)] at hplace
      cases hplace
  · have hok := (hm (max m n)).reads (Nat.le_max_left m n)
    rw [(hn (max m n)).reads (Nat.le_max_right m n)] at hok
    cases hok
    rfl

/-- Tokens are read as a tree exactly if they are a whole condition that opens
no more levels than allowed and means that tree. -/
theorem parseTokens_ok_iff {finish : Nat} {ts : List Token} {e : Expr} :
    parseTokens finish ts = .ok e
      ↔ ∃ n, n ≤ maxNesting
        ∧ Grammar.Derives .whole n (Parser.lexemes ts) e := by
  constructor
  · intro h
    obtain ⟨⟨e', rest⟩, hwhole, hend⟩ := Parser.ok_of_bind h
    obtain ⟨front, n, hsplit, hn, hder⟩ :=
      (Parser.level_sound maxNesting).whole hwhole
    cases rest with
    | cons t rest => cases hend
    | nil =>
        cases hend
        rw [List.append_nil] at hsplit
        rw [hsplit]
        exact ⟨n + 1, hn, hder.whole⟩
  · rintro ⟨n, hn, hder⟩
    unfold parseTokens
    rw [(Parser.whole_read hder maxNesting).reads hn]
    rfl

/-- Tokens are refused if they are as a condition. -/
theorem parseTokens_refused {finish : Nat} {ts : List Token} {f : SyntaxError}
    (h : (Parser.level finish maxNesting).whole ts = .error f) :
    parseTokens finish ts = .error f := by
  show ((Parser.level finish maxNesting).whole ts >>= _) = _
  rw [h]
  rfl

/-- A text that can be cut into tokens is read as they are. -/
theorem parse_of_tokens {source : String} {ts : List Token}
    (h : tokenize source = .ok ts) :
    parse source = parseTokens source.utf8ByteSize ts := by
  unfold parse
  rw [h]
  rfl

/-- A text is read as a tree exactly if its tokens are. -/
theorem parse_ok_iff {source : String} {e : Expr} :
    parse source = .ok e
      ↔ ∃ ts, tokenize source = .ok ts ∧ ∃ n, n ≤ maxNesting
        ∧ Grammar.Derives .whole n (ts.map (·.lexeme)) e := by
  constructor
  · intro h
    obtain ⟨ts, hts, hparse⟩ := Parser.ok_of_bind h
    exact ⟨ts, hts, parseTokens_ok_iff.mp hparse⟩
  · rintro ⟨ts, hts, hder⟩
    rw [parse_of_tokens hts]
    exact parseTokens_ok_iff.mpr hder

/-- The text of a condition is read exactly if it can be cut into tokens and
these are a whole condition of the grammar, with at most `maxNesting` levels
open at any point. What is read is the tree of the derivation, which is the only
one: a text has no two derivations that differ in their tree or their nesting. A
text of the grammar that is nested deeper is refused for that. -/
theorem parse_iff_derives (source : String) :
    (∀ e, parse source = .ok e
      ↔ ∃ ts, tokenize source = .ok ts ∧ ∃ n, n ≤ maxNesting
        ∧ Grammar.Derives .whole n (ts.map (·.lexeme)) e)
    ∧ (∀ text m n e f, Grammar.Derives .whole m text e →
      Grammar.Derives .whole n text f → m = n ∧ e = f)
    ∧ (∀ ts n e, tokenize source = .ok ts → maxNesting < n →
      Grammar.Derives .whole n (ts.map (·.lexeme)) e →
      ∃ place, parse source = .error ⟨.tooDeep, place⟩) := by
  refine ⟨fun _ => parse_ok_iff, fun text m n e f => Grammar.Derives.unique, ?_⟩
  intro ts n e hts hn hder
  obtain ⟨place, hplace⟩ := (Parser.whole_read hder maxNesting).refuses hn
  unfold parse parseTokens
  rw [hts]
  refine ⟨place, ?_⟩
  show ((Parser.level source.utf8ByteSize maxNesting).whole ts >>= _) = _
  rw [hplace]
  rfl

/-- After a dot a keyword is the name of a field. -/
theorem parse_of_keyword_field :
    Grammar.Derives .whole 2 [.word "not", .word "a", .dot, .word "in"]
        (.not (.path "a" [.key "in"]))
      ∧ parse "not a.in" = .ok (.not (.path "a" [.key "in"])) := by
  have hname : Grammar.IsName "a" := by
    constructor
    · decide
    · intro v hv
      simp [Grammar.literalWords] at hv
  have hder : Grammar.Derives .whole 2
      [.word "not", .word "a", .dot, .word "in"]
      (.not (.path "a" [.key "in"])) :=
    .whole (.disjunction (.conjunction (.not (by decide) (.negation
      (.comparison (.unary (.path hname (.cons (.field "in") .nil))))))))
  refine ⟨hder, ((parse_iff_derives "not a.in").1 _).mpr ?_⟩
  exact ⟨[⟨.word "not", 0⟩, ⟨.word "a", 4⟩, ⟨.dot, 5⟩, ⟨.word "in", 6⟩],
    by cbv, 2, by decide, hder⟩

end Condition

end HookRules
