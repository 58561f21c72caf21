/-
What is read is derived.

Every reader takes phrases of its category from the front of the tokens. A
reader that may open `k` levels takes those whose derivation opens fewer than
`k + 1`; `Sound` states this with a strict bound, so that the readers that open
a level (`Level`) are sound for the very number of levels that is left. The
induction is over that number (`level_sound`). Inside it each reader is sound
because the readers that it calls are, one lemma a reader.
-/
import HookRules.Condition.Parser
import HookRules.Proofs.Condition.Grammar

namespace HookRules

namespace Condition

namespace Parser

open Grammar

variable {finish : Nat}

-- ================================================================= lexemes

/-- The lexemes of tokens. The grammar speaks of these, so places drop out at
this point. -/
def lexemes (ts : List Token) : List Lexeme := ts.map (·.lexeme)

@[simp] theorem lexemes_cons (t : Token) (ts : List Token) :
    lexemes (t :: ts) = t.lexeme :: lexemes ts := rfl

@[simp] theorem lexemes_append (ts us : List Token) :
    lexemes (ts ++ us) = lexemes ts ++ lexemes us := List.map_append

-- =============================================================== sequences

/-- What succeeds after something else has succeeded. -/
theorem ok_of_bind {α β ε : Type} {r : Except ε α} {use : α → Except ε β}
    {b : β} (h : (r >>= use) = .ok b) : ∃ a, r = .ok a ∧ use a = .ok b := by
  cases r with
  | error fault => cases h
  | ok a => exact ⟨a, rfl, h⟩

/-- What fails in two steps fails in the first, or in the second after the
first. -/
theorem error_of_bind {α β ε : Type} {r : Except ε α} {use : α → Except ε β}
    {e : ε} (h : (r >>= use) = .error e) :
    r = .error e ∨ ∃ a, r = .ok a ∧ use a = .error e := by
  cases r with
  | error fault =>
      cases h
      exact Or.inl rfl
  | ok a => exact Or.inr ⟨a, rfl, h⟩

/-- A lexeme that was expected was there. -/
theorem expect_ok {l : Lexeme} {w : Wanted} {ts rest : List Token}
    (h : expect finish l w ts = .ok rest) :
    ∃ t, ts = t :: rest ∧ t.lexeme = l := by
  cases ts with
  | nil => cases h
  | cons t ts =>
      simp only [expect] at h
      split at h
      · next hl =>
          cases h
          exact ⟨t, rfl, hl⟩
      · cases h

-- =================================================================== words

/-- The literals that are words are those of the grammar. -/
theorem literal?_eq_some {name : String} {v : Json} :
    literal? name = some v ↔ (name, v) ∈ literalWords := by
  constructor
  · intro h
    unfold literal? at h
    split at h <;> cases h <;> simp [literalWords]
  · intro h
    simp only [literalWords, List.mem_cons, Prod.mk.injEq, List.not_mem_nil,
      or_false] at h
    rcases h with ⟨rfl, rfl⟩ | ⟨rfl, rfl⟩ | ⟨rfl, rfl⟩ | ⟨rfl, rfl⟩ |
      ⟨rfl, rfl⟩ | ⟨rfl, rfl⟩ | ⟨rfl, rfl⟩ <;> rfl

/-- The keywords are the words that are operators. -/
theorem isKeyword_iff {name : String} :
    isKeyword name = true ↔ name ∈ operatorWords := by
  simp [isKeyword, operatorWords, or_assoc]

/-- A name is a word that is neither a literal nor a keyword. -/
theorem isName_iff {name : String} :
    IsName name ↔ literal? name = none ∧ isKeyword name = false := by
  constructor
  · rintro ⟨hoperator, hliteral⟩
    constructor
    · refine Option.eq_none_iff_forall_ne_some.mpr fun v hv => ?_
      exact hliteral v (literal?_eq_some.mp hv)
    · exact Bool.eq_false_iff.mpr fun h => hoperator (isKeyword_iff.mp h)
  · rintro ⟨hliteral, hkeyword⟩
    constructor
    · intro h
      rw [isKeyword_iff.mpr h] at hkeyword
      cases hkeyword
    · intro v hv
      rw [literal?_eq_some.mpr hv] at hliteral
      cases hliteral

/-- The reader asks for the signs of `or` one by one; the grammar lists them. -/
theorem isOr_iff {l : Lexeme} : isOr l = true ↔ l ∈ orSigns := by
  simp [isOr, orSigns]

theorem isAnd_iff {l : Lexeme} : isAnd l = true ↔ l ∈ andSigns := by
  simp [isAnd, andSigns]

theorem isNot_iff {l : Lexeme} : isNot l = true ↔ l ∈ notSigns := by
  simp [isNot, notSigns]

/-- An operator is read where it is written. -/
theorem operator?_eq_some {ts rest : List Token} {op : Operator}
    (h : operator? ts = some (op, rest)) :
    ∃ front, ts = front ++ rest ∧ lexemes front = operatorText op := by
  unfold operator? at h
  split at h <;> cases h
  case h_10 => exact ⟨[_, _], rfl, rfl⟩
  all_goals exact ⟨[_], rfl, rfl⟩

-- =================================================================== paths

/-- The steps of a path are read from what writes them. -/
theorem segments_sound {ts rest : List Token} {steps : List Segment}
    (h : segments finish ts = .ok (steps, rest)) :
    ∃ front, ts = front ++ rest ∧ Steps (lexemes front) steps := by
  fun_induction segments finish ts generalizing steps rest with
  | case1 p name q ts ih =>
      obtain ⟨⟨more, ts'⟩, hmore, hret⟩ := ok_of_bind h
      obtain ⟨front, rfl, hfront⟩ := ih hmore
      cases hret
      exact ⟨⟨.dot, p⟩ :: ⟨.word name, q⟩ :: front, rfl,
        .cons (.field name) hfront⟩
  | case2 p i q ts ih =>
      obtain ⟨⟨more, ts'⟩, hmore, hret⟩ := ok_of_bind h
      obtain ⟨front, rfl, hfront⟩ := ih hmore
      cases hret
      exact ⟨⟨.dot, p⟩ :: ⟨.num (.int i), q⟩ :: front, rfl,
        .cons (.place i) hfront⟩
  | case4 p name q r ts ih =>
      obtain ⟨⟨more, ts'⟩, hmore, hret⟩ := ok_of_bind h
      obtain ⟨front, rfl, hfront⟩ := ih hmore
      cases hret
      exact ⟨⟨.openBracket, p⟩ :: ⟨.str name, q⟩ :: ⟨.closeBracket, r⟩ :: front,
        rfl, .cons (.key name) hfront⟩
  | case5 p i q r ts ih =>
      obtain ⟨⟨more, ts'⟩, hmore, hret⟩ := ok_of_bind h
      obtain ⟨front, rfl, hfront⟩ := ih hmore
      cases hret
      exact ⟨⟨.openBracket, p⟩ :: ⟨.num (.int i), q⟩ :: ⟨.closeBracket, r⟩
        :: front, rfl, .cons (.index i) hfront⟩
  | case6 p q i r s ts ih =>
      obtain ⟨⟨more, ts'⟩, hmore, hret⟩ := ok_of_bind h
      obtain ⟨front, rfl, hfront⟩ := ih hmore
      cases hret
      exact ⟨⟨.openBracket, p⟩ :: ⟨.minus, q⟩ :: ⟨.num (.int i), r⟩
        :: ⟨.closeBracket, s⟩ :: front, rfl, .cons (.fromEnd i) hfront⟩
  | case12 ts =>
      cases h
      exact ⟨[], rfl, .nil⟩
  | _ => cases h

-- ================================================================= phrases

/-- A reader takes phrases of a category that open fewer than `k` levels. -/
def Sound (c : Category) (k : Nat) (reader : Reader Expr) : Prop :=
  ∀ ⦃ts : List Token⦄ ⦃e : Expr⦄ ⦃rest : List Token⦄,
    reader ts = .ok (e, rest) →
    ∃ front n, ts = front ++ rest ∧ n < k ∧ Derives c n (lexemes front) e

/-- What a reader takes, as phrases of a wider category. -/
theorem Sound.imp {c d : Category} {k : Nat} {reader : Reader Expr}
    (h : Sound c k reader)
    (hcd : ∀ {n text e}, Derives c n text e → Derives d n text e) :
    Sound d k reader := by
  intro ts e rest hread
  obtain ⟨front, n, hsplit, hn, hder⟩ := h hread
  exact ⟨front, n, hsplit, hn, hcd hder⟩

/-- A level whose readers take phrases that open fewer than `k` levels. -/
structure Level.Sound (inner : Level) (k : Nat) : Prop where
  whole : Parser.Sound .disjunction k inner.whole
  negated : Parser.Sound .negation k inner.negated
  opposite : Parser.Sound .unary k inner.opposite

-- =================================================================== items

/-- What a reader of whole conditions takes is an item. -/
theorem item_sound {k : Nat} {item : Reader Expr}
    (hitem : Sound .disjunction k item) {ts rest : List Token} {e : Expr}
    (h : item ts = .ok (e, rest)) :
    ∃ front, ∃ i : Item, ts = front ++ rest ∧ lexemes front = i.text ∧ e = i.tree
      ∧ i.nesting ≤ k ∧ Derives .whole i.nesting i.text i.tree := by
  obtain ⟨front, n, hsplit, hn, hder⟩ := hitem h
  exact ⟨front, ⟨n + 1, lexemes front, e⟩, hsplit, rfl, rfl, hn, hder.whole⟩

/-- Items after the first are read with the commas before them and the lexeme
that closes them. -/
theorem moreItems_sound {k : Nat} {item : Reader Expr}
    (hitem : Sound .disjunction k item) {close : Lexeme} {w : Wanted}
    {fuel : Nat} {ts rest : List Token} {es : List Expr}
    (h : moreItems finish item close w fuel ts = .ok (es, rest)) :
    ∃ front, ∃ items : List Item, ts = front ++ rest
      ∧ lexemes front = (items.flatMap fun i => .comma :: i.text) ++ [close]
      ∧ es = items.map (·.tree) ∧ deepest items ≤ k
      ∧ ∀ i, i ∈ items → Derives .whole i.nesting i.text i.tree := by
  fun_induction moreItems finish item close w fuel ts generalizing es rest with
  | case1 fuel p ts ih =>
      obtain ⟨⟨e, ts'⟩, he, hmore⟩ := ok_of_bind h
      obtain ⟨⟨es', ts''⟩, hes, hret⟩ := ok_of_bind hmore
      cases hret
      obtain ⟨front', items, rfl, htext', rfl, hk, hders⟩ := ih _ hes
      obtain ⟨front, i, rfl, htext, rfl, hi, hder⟩ := item_sound hitem he
      refine ⟨⟨.comma, p⟩ :: (front ++ front'), i :: items, ?_, ?_, rfl, ?_, ?_⟩
      · rw [List.cons_append, List.append_assoc]
      · simp [htext, htext']
      · exact Nat.max_le.mpr ⟨hi, hk⟩
      · exact List.forall_mem_cons.mpr ⟨hder, hders⟩
  | case2 fuel ts _ =>
      obtain ⟨ts', hexp, hret⟩ := ok_of_bind h
      cases hret
      obtain ⟨t, rfl, ht⟩ := expect_ok hexp
      refine ⟨[t], [], rfl, ?_, rfl, Nat.zero_le k, nofun⟩
      rw [lexemes_cons, ht]
      rfl

/-- Items are read with the lexeme that closes them. -/
theorem items_sound {k : Nat} {item : Reader Expr}
    (hitem : Sound .disjunction k item) {close : Lexeme} {w : Wanted}
    {ts rest : List Token} {es : List Expr}
    (h : items finish item close w ts = .ok (es, rest)) :
    ∃ front, ∃ list : List Item, ts = front ++ rest
      ∧ lexemes front = listed list ++ [close]
      ∧ es = list.map (·.tree) ∧ deepest list ≤ k
      ∧ ∀ i, i ∈ list → Derives .whole i.nesting i.text i.tree := by
  unfold items at h
  dsimp only at h
  split at h
  · next hclose =>
      cases ts with
      | nil => cases hclose
      | cons t ts =>
          cases h
          refine ⟨[t], [], rfl, ?_, rfl, Nat.zero_le k, nofun⟩
          rw [← Option.some.inj hclose]
          rfl
  · obtain ⟨⟨e, ts'⟩, he, hmore⟩ := ok_of_bind h
    obtain ⟨⟨es', ts''⟩, hes, hret⟩ := ok_of_bind hmore
    cases hret
    obtain ⟨front, i, rfl, htext, rfl, hi, hder⟩ := item_sound hitem he
    obtain ⟨front', list, rfl, htext', rfl, hk, hders⟩ :=
      moreItems_sound hitem hes
    refine ⟨front ++ front', i :: list, ?_, ?_, rfl, ?_, ?_⟩
    · rw [List.append_assoc]
    · simp [listed, htext, htext']
    · exact Nat.max_le.mpr ⟨hi, hk⟩
    · exact List.forall_mem_cons.mpr ⟨hder, hders⟩

/-- Arguments are read with their parentheses. -/
theorem arguments_sound {inner : Level} {k : Nat} (hin : inner.Sound k)
    {ts rest : List Token} {es : List Expr}
    (h : arguments finish inner ts = .ok (es, rest)) :
    ∃ front, ∃ list : List Item, ts = front ++ rest
      ∧ lexemes front = .openParen :: (listed list ++ [.closeParen])
      ∧ es = list.map (·.tree) ∧ deepest list ≤ k
      ∧ ∀ i, i ∈ list → Derives .whole i.nesting i.text i.tree := by
  obtain ⟨ts', hexp, hitems⟩ := ok_of_bind h
  obtain ⟨t, rfl, ht⟩ := expect_ok hexp
  obtain ⟨front, list, rfl, htext, hes, hk, hders⟩ :=
    items_sound hin.whole hitems
  refine ⟨t :: front, list, rfl, ?_, hes, hk, hders⟩
  rw [lexemes_cons, ht, htext]

-- ============================================================= connectives

section Chain

variable {c d : Category} {k : Nat} {operand : Reader Expr}
  {isJoint : Lexeme → Bool} {join : Expr → Expr → Expr}

/-- Further operands are joined to what stands on their left. -/
theorem joined_sound (hoperand : Sound c k operand)
    (hmore : ∀ {m n left right s e f}, Derives d m left e → isJoint s = true →
      Derives c n right f → Derives d (max m n) (left ++ s :: right) (join e f))
    {fuel : Nat} {lhs : Expr} {ts : List Token} {e : Expr} {rest : List Token}
    (h : joined operand isJoint join fuel lhs ts = .ok (e, rest))
    {before : List Token} {m : Nat} (hm : m < k)
    (hlhs : Derives d m (lexemes before) lhs) :
    ∃ front n, before ++ ts = front ++ rest ∧ n < k
      ∧ Derives d n (lexemes front) e := by
  fun_induction joined operand isJoint join fuel lhs ts generalizing before m with
  | case1 fuel lhs t ts hjoint ih =>
      obtain ⟨⟨rhs, ts'⟩, hrhs, hjoined⟩ := ok_of_bind h
      obtain ⟨front, n, rfl, hn, hder⟩ := hoperand hrhs
      have hboth : Derives d (max m n) (lexemes (before ++ t :: front))
          (join lhs rhs) := by
        rw [lexemes_append, lexemes_cons]
        exact hmore hlhs hjoint hder
      obtain ⟨front', n', hsplit, hn', hder'⟩ :=
        ih _ _ hjoined (Nat.max_lt.mpr ⟨hm, hn⟩) hboth
      refine ⟨front', n', ?_, hn', hder'⟩
      rw [← hsplit, List.append_assoc, List.cons_append]
  | case2 fuel lhs t ts hjoint =>
      cases h
      exact ⟨before, m, rfl, hm, hlhs⟩
  | case3 fuel lhs ts _ =>
      cases h
      exact ⟨before, m, rfl, hm, hlhs⟩

/-- A chain of operands is a phrase if one operand is and if each further one
makes a phrase of what is before it. Both connectives are cases of this. -/
theorem chain_sound (hoperand : Sound c k operand)
    (hone : ∀ {n text e}, Derives c n text e → Derives d n text e)
    (hmore : ∀ {m n left right s e f}, Derives d m left e → isJoint s = true →
      Derives c n right f →
      Derives d (max m n) (left ++ s :: right) (join e f)) :
    Sound d k (chain operand isJoint join) := by
  intro ts e rest h
  obtain ⟨⟨lhs, ts'⟩, hlhs, hjoined⟩ := ok_of_bind h
  obtain ⟨front, n, rfl, hn, hder⟩ := hoperand hlhs
  exact joined_sound hoperand hmore hjoined hn (hone hder)

end Chain

-- ================================================================= readers

section Readers

variable {inner : Level} {k : Nat}

/-- A term is a literal, a path, a call, a list or a whole condition in
parentheses, told by its first lexeme. The last three read with the level
below. -/
theorem term_sound (hin : inner.Sound k) :
    Sound .term (k + 1) (term finish inner) := by
  intro ts e rest h
  unfold term at h
  split at h
  · cases h
  · next s p ts =>
      cases h
      exact ⟨[⟨.str s, p⟩], 0, rfl, Nat.succ_pos k, .str s⟩
  · next n p ts =>
      cases h
      exact ⟨[⟨.num n, p⟩], 0, rfl, Nat.succ_pos k, .num n⟩
  · next p ts =>
      -- a group
      obtain ⟨⟨e', ts'⟩, hwhole, hclose⟩ := ok_of_bind h
      obtain ⟨ts'', hexp, hret⟩ := ok_of_bind hclose
      cases hret
      obtain ⟨front, n, rfl, hn, hder⟩ := hin.whole hwhole
      obtain ⟨t, rfl, ht⟩ := expect_ok hexp
      refine ⟨⟨.openParen, p⟩ :: (front ++ [t]), n + 1, ?_, by omega, ?_⟩
      · simp
      · rw [lexemes_cons, lexemes_append, lexemes_cons, ht]
        exact .group hder.whole
  · next p ts =>
      -- a list
      obtain ⟨⟨es, ts'⟩, hitems, hret⟩ := ok_of_bind h
      cases hret
      obtain ⟨front, list, rfl, htext, rfl, hk, hders⟩ :=
        items_sound hin.whole hitems
      refine ⟨⟨.openBracket, p⟩ :: front, deepest list, rfl, by omega, ?_⟩
      rw [lexemes_cons, htext]
      exact .list list hders
  · next p name q ts =>
      -- a call with a dollar sign
      obtain ⟨⟨es, ts'⟩, hargs, hret⟩ := ok_of_bind h
      cases hret
      obtain ⟨front, list, rfl, htext, rfl, hk, hders⟩ :=
        arguments_sound hin hargs
      refine ⟨⟨.dollar, p⟩ :: ⟨.word name, q⟩ :: front, deepest list, rfl,
        by omega, ?_⟩
      rw [lexemes_cons, lexemes_cons, htext]
      exact .dollarCall name list hders
  · cases h
  · next name p ts =>
      -- a word
      split at h
      · next v hv =>
          cases h
          exact ⟨[⟨.word name, p⟩], 0, rfl, Nat.succ_pos k,
            .word (literal?_eq_some.mp hv)⟩
      · next hliteral =>
          split at h
          · cases h
          · next hkeyword =>
              have hname : IsName name :=
                isName_iff.mpr ⟨hliteral, Bool.eq_false_iff.mpr hkeyword⟩
              split at h
              · obtain ⟨⟨es, ts'⟩, hargs, hret⟩ := ok_of_bind h
                cases hret
                obtain ⟨front, list, rfl, htext, rfl, hk, hders⟩ :=
                  arguments_sound hin hargs
                refine ⟨⟨.word name, p⟩ :: front, deepest list, rfl,
                  by omega, ?_⟩
                rw [lexemes_cons, htext]
                exact .call hname list hders
              · obtain ⟨⟨steps, ts'⟩, hsteps, hret⟩ := ok_of_bind h
                cases hret
                obtain ⟨front, rfl, hder⟩ := segments_sound hsteps
                exact ⟨⟨.word name, p⟩ :: front, 0, rfl, Nat.succ_pos k,
                  .path hname hder⟩
  · cases h

/-- A minus opens a level for its operand. -/
theorem unary_sound (hin : inner.Sound k) :
    Sound .unary (k + 1) (unary finish inner) := by
  intro ts e rest h
  unfold unary at h
  split at h
  · next p ts =>
      obtain ⟨⟨e', ts'⟩, hopposite, hret⟩ := ok_of_bind h
      cases hret
      obtain ⟨front, n, rfl, hn, hder⟩ := hin.opposite hopposite
      exact ⟨⟨.minus, p⟩ :: front, n + 1, rfl, by omega, .neg hder⟩
  · exact (term_sound hin).imp Derives.unary h

/-- A comparison is a unary expression, or two with an operator between them; a
second operator is not read. -/
theorem comparison_sound (hin : inner.Sound k) :
    Sound .comparison (k + 1) (comparison finish inner) := by
  intro ts e rest h
  obtain ⟨⟨lhs, ts'⟩, hlhs, hop⟩ := ok_of_bind h
  obtain ⟨front, m, rfl, hm, hder⟩ := unary_sound hin hlhs
  dsimp only at hop
  split at hop
  · cases hop
    exact ⟨front, m, rfl, hm, .comparison hder⟩
  · next op ts'' hsome =>
      obtain ⟨⟨rhs, us⟩, hrhs, hret⟩ := ok_of_bind hop
      cases hret
      obtain ⟨sign, rfl, hsign⟩ := operator?_eq_some hsome
      obtain ⟨back, n, rfl, hn, hder'⟩ := unary_sound hin hrhs
      refine ⟨front ++ (sign ++ back), max m n, ?_, by omega, ?_⟩
      · simp
      · rw [lexemes_append, lexemes_append, hsign]
        exact .compare op hder hder'

/-- A `not` opens a level for what it negates. -/
theorem negation_sound (hin : inner.Sound k) :
    Sound .negation (k + 1) (negation finish inner) := by
  intro ts e rest h
  have hcomparison : Sound .negation (k + 1) (comparison finish inner) :=
    (comparison_sound hin).imp Derives.negation
  cases ts with
  | nil => exact hcomparison h
  | cons t ts =>
      simp only [negation] at h
      split at h
      · next hnot =>
          obtain ⟨⟨e', ts'⟩, hnegated, hret⟩ := ok_of_bind h
          cases hret
          obtain ⟨front, n, rfl, hn, hder⟩ := hin.negated hnegated
          exact ⟨t :: front, n + 1, rfl, by omega,
            .not (isNot_iff.mp hnot) hder⟩
      · exact hcomparison h

/-- Negations joined by `and`. -/
theorem conjunction_sound (hin : inner.Sound k) :
    Sound .conjunction (k + 1) (conjunction finish inner) :=
  chain_sound (negation_sound hin) Derives.conjunction
    fun hl hs hr => .and hl (isAnd_iff.mp hs) hr

/-- Conjunctions joined by `or`, which is a whole condition. -/
theorem disjunction_sound (hin : inner.Sound k) :
    Sound .disjunction (k + 1) (disjunction finish inner) :=
  chain_sound (conjunction_sound hin) Derives.disjunction
    fun hl hs hr => .or hl (isOr_iff.mp hs) hr

end Readers

/-- The readers that may open `k` levels take phrases that open fewer. -/
theorem level_sound (k : Nat) : (level finish k).Sound k := by
  induction k with
  | zero => exact ⟨nofun, nofun, nofun⟩
  | succ k ih =>
      exact ⟨disjunction_sound ih, negation_sound ih, unary_sound ih⟩

end Parser

end Condition

end HookRules
