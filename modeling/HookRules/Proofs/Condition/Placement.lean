/-
Where tokens stand decides nothing.

A reader looks at lexemes and carries places along: into the tokens that it
leaves over, and into the place of a fault. So tokens that stand elsewhere, and a
text that ends elsewhere, are read alike, with every place moved. `Follows` says
this of two readers, one lemma a reader, and `parseTokens_move` says it of whole
conditions.

# Where faults are

A reader has no other places than those it was given. This needs no second look
at the readers: let a move leave the tokens and the end of the text where they
are and take every other place away. What is read is the same before and after
it, so a fault is at a place that did not move (`parseTokens_place`).
-/
import HookRules.Proofs.Condition.Completeness

namespace HookRules

namespace Condition

/-- A token at another place: the lexeme, which is all that a reader looks at,
stays. -/
def Token.move (g : Nat → Nat) (t : Token) : Token := ⟨t.lexeme, g t.position⟩

/-- A fault at another place. -/
def SyntaxError.move (g : Nat → Nat) (e : SyntaxError) : SyntaxError :=
  ⟨e.fault, g e.position⟩

@[simp] theorem Token.move_lexeme (g : Nat → Nat) (t : Token) :
    (t.move g).lexeme = t.lexeme := rfl

namespace Parser

variable {g : Nat → Nat} {finish : Nat}

-- ==================================================================== moving

/-- Tokens at other places. -/
def moved (g : Nat → Nat) (ts : List Token) : List Token := ts.map (Token.move g)

@[simp] theorem moved_cons (t : Token) (ts : List Token) :
    moved g (t :: ts) = t.move g :: moved g ts := rfl

@[simp] theorem move_mk (l : Lexeme) (p : Nat) :
    Token.move g ⟨l, p⟩ = ⟨l, g p⟩ := rfl

@[simp] theorem length_moved (ts : List Token) : (moved g ts).length = ts.length :=
  List.length_map _

@[simp] theorem drop_moved (n : Nat) (ts : List Token) :
    (moved g ts).drop n = moved g (ts.drop n) := List.map_drop.symm

@[simp] theorem head?_moved (ts : List Token) :
    (moved g ts).head?.map (·.lexeme) = ts.head?.map (·.lexeme) := by
  cases ts <;> rfl

/-- The place where tokens begin moves with them, and so does the end of the
text, which takes its part when there are none. -/
theorem placeOf_moved (ts : List Token) :
    placeOf (g finish) (moved g ts) = g (placeOf finish ts) := by
  cases ts <;> rfl

/-- A result of moved tokens: what is found may hold tokens, a fault has a
place. -/
def shift {α β : Type} (g : Nat → Nat) (f : α → β) :
    Except SyntaxError α → Except SyntaxError β
  | .ok a => .ok (f a)
  | .error e => .error (e.move g)

/-- What was read, with the tokens left over moved. -/
def carry {α : Type} (g : Nat → Nat) (r : α × List Token) : α × List Token :=
  (r.1, moved g r.2)

/-- Two steps in a row follow if each of them does. Every reader is such steps
and a look at the next lexeme, so this is the lemma that all proofs below turn
on. -/
theorem shift_bind {α β α' β' : Type} {f : α → α'} {h : β → β'}
    {r : Except SyntaxError α} {r' : Except SyntaxError α'}
    {use : α → Except SyntaxError β} {use' : α' → Except SyntaxError β'}
    (hr : r' = shift g f r) (huse : ∀ a, use' (f a) = shift g h (use a)) :
    (r' >>= use') = shift g h (r >>= use) := by
  subst hr
  cases r with
  | error e => rfl
  | ok a => exact huse a

/-- A reader of moved tokens reads what another one reads where they were,
leaves over the same tokens moved, or refuses for the same fault at the moved
place. -/
def Follows {α : Type} (g : Nat → Nat) (reader reader' : Reader α) : Prop :=
  ∀ ts, reader' (moved g ts) = shift g (carry g) (reader ts)

/-- A reader that finds something else than it wants says so at the place where
it looked. -/
theorem wanting_moved (w : Wanted) (ts : List Token) :
    wanting (g finish) w (moved g ts) = (wanting finish w ts).move g := by
  simp [wanting, SyntaxError.move, placeOf_moved]

/-- One lexeme is expected, and found or missed at the moved place. -/
theorem expect_moved (l : Lexeme) (w : Wanted) (ts : List Token) :
    expect (g finish) l w (moved g ts)
      = shift g (moved g) (expect finish l w ts) := by
  cases ts with
  | nil => rfl
  | cons t ts =>
      rw [moved_cons, expect, expect, Token.move_lexeme]
      split
      · rfl
      · exact congrArg Except.error (wanting_moved w (t :: ts))

/-- To move tokens does not change their text. -/
theorem lexemes_moved (ts : List Token) : lexemes (moved g ts) = lexemes ts := by
  simp [lexemes, moved, Function.comp_def]

/-- An operator is known by its text, which may be two tokens long as in `not
in`. In both directions: no operator shows up that was not there. -/
theorem operator?_moved (ts : List Token) :
    operator? (moved g ts) = (operator? ts).map (carry g) := by
  cases h : operator? ts with
  | some found =>
      obtain ⟨op, rest⟩ := found
      obtain ⟨front, rfl, hfront⟩ := operator?_eq_some h
      have htext : lexemes (moved g front) = Grammar.operatorText op := by
        rw [lexemes_moved, hfront]
      rw [moved, List.map_append]
      exact operator?_text htext
  | none =>
      -- an operator that is found after the move has the same text before it
      cases h' : operator? (moved g ts) with
      | none => rfl
      | some found =>
          obtain ⟨op, rest⟩ := found
          obtain ⟨front, hsplit, hfront⟩ := operator?_eq_some h'
          obtain ⟨own, more, rfl, rfl, -⟩ := List.map_eq_append_iff.mp hsplit
          rw [← moved, lexemes_moved] at hfront
          rw [operator?_text hfront] at h
          cases h

/-- The steps of a path end, or fail, at the same lexemes. The cases of the
reader with a step go on with the rest; in all others the moved tokens have to
be looked at once more, to see that they fall into the same case. -/
theorem segments_follows :
    Follows g (segments finish) (segments (g finish)) := by
  intro ts
  fun_induction segments finish ts with
  -- a step and those after it
  | case1 _ _ _ _ ih | case2 _ _ _ _ ih | case4 _ _ _ _ _ ih
  | case5 _ _ _ _ _ ih | case6 _ _ _ _ _ _ ih =>
      exact shift_bind ih fun _ => rfl
  -- a dot before neither a name nor an index
  | case3 _ ts hname hindex =>
      rcases ts with _ | ⟨⟨l, q⟩, ts⟩
      · rfl
      · cases l with
        | word name => exact absurd rfl (hname name q ts)
        | num n =>
            cases n with
            | int i => exact absurd rfl (hindex i q ts)
            | float x => rfl
        | _ => rfl
  -- an open bracket that is not closed
  | case7 _ _ _ ts hclose | case8 _ _ _ ts hclose | case9 _ _ _ _ ts hclose =>
      rcases ts with _ | ⟨⟨l, q⟩, ts⟩
      · rfl
      · cases l with
        | closeBracket => exact absurd rfl (hclose q ts)
        | _ => rfl
  -- a bracket or a minus before neither a key nor an index
  | case10 _ _ ts _ hindex =>
      rcases ts with _ | ⟨⟨l, q⟩, ts⟩
      · rfl
      · cases l with
        | num n =>
            cases n with
            | int i => exact absurd rfl (hindex i q ts)
            | float x => rfl
        | _ => rfl
  | case11 _ ts _ _ _ hkey hindex _ hminus =>
      rcases ts with _ | ⟨⟨l, q⟩, ts⟩
      · rfl
      · cases l with
        | str name => exact absurd rfl (hkey name q ts)
        | num n =>
            cases n with
            | int i => exact absurd rfl (hindex i q ts)
            | float x => rfl
        | minus => exact absurd rfl (hminus q ts)
        | _ => rfl
  -- the end of the path
  | case12 ts _ _ hdot _ _ _ _ _ _ _ hbracket =>
      rcases ts with _ | ⟨⟨l, q⟩, ts⟩
      · rfl
      · cases l with
        | dot => exact absurd rfl (hdot q ts)
        | openBracket => exact absurd rfl (hbracket q ts)
        | _ => rfl

-- ===================================================================== loops

section Loops

variable {item item' operand operand' : Reader Expr}

/-- Items after the first one, each with its comma before it, up to the closing
lexeme. -/
theorem moreItems_follows (hitem : Follows g item item') (close : Lexeme)
    (w : Wanted) (fuel : Nat) :
    Follows g (moreItems finish item close w fuel)
      (moreItems (g finish) item' close w fuel) := by
  intro ts
  fun_induction moreItems finish item close w fuel ts with
  | case1 fuel p ts ih =>
      exact shift_bind (hitem ts) fun r => shift_bind (ih r.2) fun _ => rfl
  | case2 fuel ts hmore =>
      have hend : (do
            let us ← expect (g finish) close w (moved g ts)
            return (([] : List Expr), us))
          = shift g (carry g) (do
            let us ← expect finish close w ts
            return ([], us)) :=
        shift_bind (expect_moved close w ts) fun _ => rfl
      cases fuel with
      | zero => exact hend
      | succ fuel =>
          rcases ts with _ | ⟨⟨l, q⟩, ts⟩
          · exact hend
          · cases l with
            | comma => exact absurd rfl (hmore fuel q ts rfl)
            | _ => exact hend

/-- Items up to the closing lexeme, which may come at once. -/
theorem items_follows (hitem : Follows g item item') (close : Lexeme)
    (w : Wanted) :
    Follows g (items finish item close w) (items (g finish) item' close w) := by
  intro ts
  unfold items
  dsimp only
  rw [head?_moved]
  split
  · rw [drop_moved]
    rfl
  · refine shift_bind (hitem ts) fun r => ?_
    have hmore : moreItems (g finish) item' close w (moved g r.2).length
        (moved g r.2)
          = shift g (carry g) (moreItems finish item close w r.2.length r.2) := by
      rw [length_moved]
      exact moreItems_follows hitem close w r.2.length r.2
    exact shift_bind hmore fun _ => rfl

/-- Operands of a chain after the first one. The fuel is the number of tokens,
which a move keeps. -/
theorem joined_follows (hoperand : Follows g operand operand')
    (isJoint : Lexeme → Bool) (join : Expr → Expr → Expr) (fuel : Nat)
    (lhs : Expr) :
    Follows g (joined operand isJoint join fuel lhs)
      (joined operand' isJoint join fuel lhs) := by
  intro ts
  induction fuel generalizing lhs ts with
  | zero => rfl
  | succ fuel ih =>
      cases ts with
      | nil => rfl
      | cons t ts =>
          rw [moved_cons, joined, joined, Token.move_lexeme]
          split
          · exact shift_bind (hoperand ts) fun r => ih (join lhs r.1) r.2
          · rfl

/-- A whole chain of operands: the first one, and then those that are joined to
it. -/
theorem chain_follows (hoperand : Follows g operand operand')
    (isJoint : Lexeme → Bool) (join : Expr → Expr → Expr) :
    Follows g (chain operand isJoint join) (chain operand' isJoint join) := by
  intro ts
  refine shift_bind (hoperand ts) fun r => ?_
  dsimp only [carry]
  rw [length_moved]
  exact joined_follows hoperand isJoint join r.2.length r.1 r.2

end Loops

-- ==================================================================== levels

section Levels

variable {inner inner' : Level}

/-- The readers of a level follow those of another. -/
structure Level.Follows (g : Nat → Nat) (inner inner' : Level) : Prop where
  whole : Parser.Follows g inner.whole inner'.whole
  negated : Parser.Follows g inner.negated inner'.negated
  opposite : Parser.Follows g inner.opposite inner'.opposite

/-- What is nested too deeply is refused at the place where it begins. -/
theorem refuse_follows : Follows g (refuse finish) (refuse (g finish)) := by
  intro ts
  unfold refuse
  rw [placeOf_moved]
  rfl

/-- Arguments are items between parentheses. -/
theorem arguments_follows (hin : inner.Follows g inner') :
    Follows g (arguments finish inner) (arguments (g finish) inner') := by
  intro ts
  exact shift_bind (expect_moved .openParen .openParen ts)
    (items_follows hin.whole .closeParen .closeParen)

/-- A term is told by its first lexeme, and a word also by whether a
parenthesis follows. -/
theorem term_follows (hin : inner.Follows g inner') :
    Follows g (term finish inner) (term (g finish) inner') := by
  intro ts
  rcases ts with _ | ⟨⟨l, p⟩, ts⟩
  · rfl
  cases l with
  | openParen =>
      refine shift_bind (hin.whole ts) fun r => ?_
      exact shift_bind (expect_moved .closeParen .closeParen r.2) fun _ => rfl
  | openBracket =>
      exact shift_bind (items_follows hin.whole .closeBracket .closeBracket ts)
        fun _ => rfl
  | dollar =>
      rcases ts with _ | ⟨⟨l, q⟩, ts⟩
      · rfl
      cases l with
      | word name => exact shift_bind (arguments_follows hin ts) fun _ => rfl
      | _ => rfl
  | word name =>
      rw [moved_cons, move_mk, term, term]
      split
      · rfl
      · split
        · rfl
        · rw [head?_moved]
          split
          · exact shift_bind (arguments_follows hin ts) fun _ => rfl
          · exact shift_bind (segments_follows ts) fun _ => rfl
  | _ => rfl

/-- Without a minus a term is read. As an equation it serves for the tokens
before and after the move. -/
theorem unary_of_ne_minus {l : Lexeme} (h : l ≠ .minus) (p : Nat)
    (ts : List Token) :
    unary finish inner (⟨l, p⟩ :: ts) = term finish inner (⟨l, p⟩ :: ts) := by
  unfold unary
  split
  · next heq =>
      cases heq
      exact absurd rfl h
  · rfl

/-- A minus goes down one level, for which following is assumed. -/
theorem unary_follows (hin : inner.Follows g inner') :
    Follows g (unary finish inner) (unary (g finish) inner') := by
  intro ts
  rcases ts with _ | ⟨⟨l, p⟩, ts⟩
  · exact term_follows hin []
  by_cases hminus : l = .minus
  · subst hminus
    exact shift_bind (hin.opposite ts) fun _ => rfl
  · rw [moved_cons, move_mk, unary_of_ne_minus hminus, unary_of_ne_minus hminus]
    exact term_follows hin (⟨l, p⟩ :: ts)

/-- A comparison reads a second operand only if an operator follows the first. -/
theorem comparison_follows (hin : inner.Follows g inner') :
    Follows g (comparison finish inner) (comparison (g finish) inner') := by
  intro ts
  refine shift_bind (unary_follows hin ts) fun r => ?_
  dsimp only [carry]
  rw [operator?_moved]
  cases operator? r.2 with
  | none => rfl
  | some found => exact shift_bind (unary_follows hin found.2) fun _ => rfl

/-- So does a `not`, which is a word like others at this place and is told from
them by its lexeme. -/
theorem negation_follows (hin : inner.Follows g inner') :
    Follows g (negation finish inner) (negation (g finish) inner') := by
  intro ts
  cases ts with
  | nil => exact comparison_follows hin []
  | cons t ts =>
      rw [moved_cons, negation, negation, Token.move_lexeme]
      split
      · exact shift_bind (hin.negated ts) fun _ => rfl
      · exact comparison_follows hin (t :: ts)

/-- The readers of every level follow. By induction on the levels: those of the
lowest refuse, and the ones of the next use no others than those below. -/
theorem level_follows (n : Nat) :
    (level finish n).Follows g (level (g finish) n) := by
  induction n with
  | zero => exact ⟨refuse_follows, refuse_follows, refuse_follows⟩
  | succ n ih =>
      have hnegation := @negation_follows g finish _ _ ih
      have hconjunction := chain_follows hnegation isAnd .and
      exact ⟨chain_follows hconjunction isOr .or, hnegation, unary_follows ih⟩

end Levels

end Parser

/-- Tokens that stand elsewhere are read as the same tree, or refused for the
same fault at the moved place. -/
theorem parseTokens_move (g : Nat → Nat) (finish : Nat) (ts : List Token) :
    parseTokens (g finish) (ts.map (Token.move g))
      = Parser.shift g id (parseTokens finish ts) := by
  refine Parser.shift_bind ((Parser.level_follows maxNesting).whole ts) fun r => ?_
  obtain ⟨e, rest⟩ := r
  cases rest <;> rfl

/-- A fault of tokens is at one of them or at the end of the text. -/
theorem parseTokens_place {finish : Nat} {ts : List Token} {e : SyntaxError}
    (h : parseTokens finish ts = .error e) :
    e.position = finish ∨ ∃ t ∈ ts, t.position = e.position := by
  classical
  -- a move that keeps just those places
  let keep (p : Nat) : Nat :=
    if p = finish ∨ ∃ t ∈ ts, t.position = p then p else p + 1
  have hfinish : keep finish = finish := if_pos (Or.inl rfl)
  have htokens : ts.map (Token.move keep) = ts := by
    have hkept : ∀ t ∈ ts, t.move keep = id t := by
      intro t ht
      have hplace : keep t.position = t.position := if_pos (Or.inr ⟨t, ht, rfl⟩)
      rw [Token.move, hplace]
      rfl
    rw [List.map_congr_left hkept, List.map_id]
  have hmove := parseTokens_move keep finish ts
  rw [hfinish, htokens, h] at hmove
  have hplace : e.position = keep e.position :=
    congrArg SyntaxError.position (Except.error.inj hmove)
  by_contra hno
  rw [show keep e.position = e.position + 1 from if_neg hno] at hplace
  omega

end Condition

end HookRules
