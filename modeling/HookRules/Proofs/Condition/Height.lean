/-
How high the tree of a condition is.

Collecting the names of a condition and evaluating it both go down the tree,
one call for each node on the way, so the height of the tree is the depth of
their recursion. The reader of conditions limits something else: the levels
that are open at once.

# What a level adds

Between two levels a phrase goes through the categories once, from `or` to
terms, and four of the categories add a node: a connective `or`, a connective
`and`, a comparison and a list or call. So a tree whose derivation has a
nesting `n` would have a height of at most `4 * n`, were it not for the two
categories that are read by loops. A chain of one connective is grouped to the
left at one and the same level, and each operand after the second adds a node
to the left edge. `Expr.links` counts these on the way where there are most of
them, and `height_of_parse` bounds the height by levels and links together.
The bound is kept by every rule of the grammar with the room that `slack`
gives its category.

# No bound without the links

No number of levels bounds the links. A text of `n + 1` operands opens one
level and has a tree of height `n + 1` (`parse_chain`), for every `n`.
-/
import HookRules.Proofs.Condition.Completeness

namespace HookRules

namespace Condition

namespace Expr

-- ============================================================== heights

mutual

/-- The number of nodes on the longest way down a tree. -/
def height : Expr → Nat
  | .literal _ => 1
  | .path _ _ => 1
  | .list items => heightOf items + 1
  | .call _ args => heightOf args + 1
  | .not e => e.height + 1
  | .neg e => e.height + 1
  | .and lhs rhs => max lhs.height rhs.height + 1
  | .or lhs rhs => max lhs.height rhs.height + 1
  | .compare _ lhs rhs => max lhs.height rhs.height + 1

/-- The height of the highest of some trees. -/
def heightOf : List Expr → Nat
  | [] => 0
  | e :: es => max e.height (heightOf es)

end

-- ================================================================ links

/-- Whether a tree is a disjunction. -/
def isOr : Expr → Bool
  | .or _ _ => true
  | _ => false

/-- Whether a tree is a conjunction. -/
def isAnd : Expr → Bool
  | .and _ _ => true
  | _ => false

mutual

/-- The number of links on the way down a tree that has most of them: places
where the left operand of a connective is a tree of the same connective. -/
def links : Expr → Nat
  | .literal _ => 0
  | .path _ _ => 0
  | .list items => linksOf items
  | .call _ args => linksOf args
  | .not e => e.links
  | .neg e => e.links
  | .and lhs rhs => max (lhs.links + lhs.isAnd.toNat) rhs.links
  | .or lhs rhs => max (lhs.links + lhs.isOr.toNat) rhs.links
  | .compare _ lhs rhs => max lhs.links rhs.links

/-- The links of the tree that has most of them. -/
def linksOf : List Expr → Nat
  | [] => 0
  | e :: es => max e.links (linksOf es)

end

end Expr

namespace Grammar

-- ======================================================= levels and links

/-- The nodes that a phrase of a category may have on top of those of the levels
opened inside it. A disjunction on the left edge of a disjunction needs no more
room than one that stands alone, since the link to it is counted. -/
def slack : Category → Expr → Nat
  | .whole, _ => 0
  | .disjunction, e => 3 + e.isOr.toNat
  | .conjunction, e => 2 + e.isAnd.toNat
  | .negation, _ => 2
  | .comparison, _ => 2
  | .unary, _ => 1
  | .term, _ => 1

/-- Items keep the bound together if each of them keeps it. -/
theorem heightOf_items {items : List Item}
    (h : ∀ i, i ∈ items → i.tree.height ≤ 4 * i.nesting + i.tree.links) :
    Expr.heightOf (items.map (·.tree))
      ≤ 4 * deepest items + Expr.linksOf (items.map (·.tree)) := by
  induction items with
  | nil => exact Nat.zero_le _
  | cons i rest ih =>
      have hfirst := h i List.mem_cons_self
      have hrest := ih fun j hj => h j (List.mem_cons_of_mem i hj)
      simp only [List.map_cons, Expr.heightOf, Expr.linksOf, deepest]
      omega

/-- A phrase is no higher than four nodes for each level, the room of its
category and its links allow. -/
theorem Derives.height_le {c : Category} {n : Nat} {text : List Lexeme}
    {e : Expr} (h : Derives c n text e) :
    e.height ≤ 4 * n + slack c e + e.links := by
  induction h with
  | @whole _ _ e _ ih =>
      have hroom := Bool.toNat_le e.isOr
      simp only [slack] at ih ⊢
      omega
  | @disjunction _ _ e _ ih =>
      have hroom := Bool.toNat_le e.isAnd
      simp only [slack] at ih ⊢
      omega
  | @or _ _ _ _ _ _ f _ _ _ ihl ihr =>
      have hroom := Bool.toNat_le f.isAnd
      simp only [slack, Expr.height, Expr.links, Expr.isOr,
        Bool.toNat_true] at ihl ihr ⊢
      omega
  | conjunction _ ih =>
      simp only [slack] at ih ⊢
      omega
  | and _ _ _ ihl ihr =>
      simp only [slack, Expr.height, Expr.links, Expr.isAnd,
        Bool.toNat_true] at ihl ihr ⊢
      omega
  | negation _ ih | comparison _ ih | unary _ ih | group _ ih =>
      simp only [slack] at ih ⊢
      omega
  | compare _ _ _ ihl ihr =>
      simp only [slack, Expr.height, Expr.links] at ihl ihr ⊢
      omega
  | not _ _ ih | neg _ ih =>
      simp only [slack, Expr.height, Expr.links] at ih ⊢
      omega
  | str _ | num _ | word _ | path _ _ =>
      simp only [slack, Expr.height, Expr.links]
      omega
  | list items _ ih | dollarCall _ items _ ih | call _ items _ ih =>
      have hitems := heightOf_items ih
      simp only [slack, Expr.height, Expr.links]
      omega

end Grammar

/-- The tree of a condition is no higher than its levels and its links allow:
four nodes for each of the levels that may be open, and one for each link on the
way down with most of them. So only chains make a tree high. -/
theorem height_of_parse (source : String) (e : Expr)
    (h : parse source = .ok e) : e.height ≤ 4 * maxNesting + e.links := by
  obtain ⟨ts, -, n, hn, hder⟩ := parse_ok_iff.mp h
  have hheight := hder.height_le
  simp only [Grammar.slack] at hheight
  omega

/-- A chain of three operands has a link. -/
theorem height_of_three_operands :
    parse "a or b or c"
        = .ok (.or (.or (.path "a" []) (.path "b" [])) (.path "c" []))
      ∧ (Expr.or (.or (.path "a" []) (.path "b" [])) (.path "c" [])).height
        ≤ 4 * maxNesting + 1 := by
  have htokens : tokenize "a or b or c"
      = .ok [⟨.word "a", 0⟩, ⟨.word "or", 2⟩, ⟨.word "b", 5⟩, ⟨.word "or", 7⟩,
        ⟨.word "c", 10⟩] := by
    cbv
  have hparse : parse "a or b or c"
      = .ok (.or (.or (.path "a" []) (.path "b" [])) (.path "c" [])) := by
    unfold parse
    rw [htokens]
    rfl
  exact ⟨hparse, height_of_parse _ _ hparse⟩

-- ================================================================ chains

namespace Lexer

/-- One token stands in front of those of the rest. -/
theorem tokensWith_next {fuel position : Nat} {c : Char} {cs rest : List Char}
    {l : Lexeme} {ts : List Token} (hblank : Text.isBlank c = false)
    (hnext : next (c :: cs) = .ok (l, rest))
    (hrest : tokensWith fuel
      (position + (byteLength (c :: cs) - byteLength rest)) rest = .ok ts) :
    tokensWith (fuel + 1) position (c :: cs) = .ok (⟨l, position⟩ :: ts) := by
  unfold tokensWith
  rw [if_neg (by rw [hblank]; exact Bool.false_ne_true), hnext]
  dsimp only
  rw [hrest]
  rfl

/-- The text of `n + 1` empty strings with `||` between them. -/
def chainText : Nat → List Char
  | 0 => ['\'', '\'']
  | n + 1 => '\'' :: '\'' :: '|' :: '|' :: chainText n

/-- The lexemes of such a chain after its first operand. -/
def chainTail : Nat → List Lexeme
  | 0 => []
  | n + 1 => .or :: .str "" :: chainTail n

theorem next_empty (rest : List Char) :
    next ('\'' :: '\'' :: rest) = .ok (.str "", rest) := rfl

theorem next_or (rest : List Char) :
    next ('|' :: '|' :: rest) = .ok (.or, rest) := rfl

/-- A chain is cut into its operands and the signs between them, wherever it
starts. -/
theorem tokensWith_chain (n : Nat) {fuel : Nat} (position : Nat)
    (hfuel : (chainText n).length ≤ fuel) :
    ∃ ts, tokensWith fuel position (chainText n) = .ok ts
      ∧ ts.map (·.lexeme) = .str "" :: chainTail n := by
  induction n generalizing fuel position with
  | zero =>
      obtain ⟨fuel, rfl⟩ := Nat.exists_eq_add_of_le' hfuel
      refine ⟨[⟨.str "", position⟩], ?_, rfl⟩
      exact tokensWith_next (by decide) (next_empty []) (by simp [tokensWith])
  | succ n ih =>
      obtain ⟨fuel, rfl⟩ := Nat.exists_eq_add_of_le' hfuel
      have hspare : (chainText n).length ≤ fuel + (chainText n).length + 2 := by
        omega
      obtain ⟨ts, hts, hlexemes⟩ := ih _ hspare
      refine ⟨_, tokensWith_next (by decide) (next_empty _)
        (tokensWith_next (by decide) (next_or _) hts), ?_⟩
      simp [chainTail, hlexemes]

end Lexer

/-- A disjunction followed by further operands is a disjunction and higher by
one for each of them. -/
theorem Grammar.derives_chain (n : Nat) {left : List Lexeme} {e : Expr}
    (h : Derives .disjunction 0 left e) :
    ∃ f, Derives .disjunction 0 (left ++ Lexer.chainTail n) f
      ∧ e.height + n ≤ f.height := by
  induction n generalizing left e with
  | zero =>
      refine ⟨e, ?_, Nat.le_refl _⟩
      rw [Lexer.chainTail, List.append_nil]
      exact h
  | succ n ih =>
      have hoperand : Derives .conjunction 0 [.str ""] (.literal (.str "")) :=
        .conjunction (.negation (.comparison (.unary (.str ""))))
      obtain ⟨f, hder, hheight⟩ := ih (.or h List.mem_cons_self hoperand)
      rw [List.append_assoc] at hder
      refine ⟨f, hder, ?_⟩
      simp only [Expr.height] at hheight
      omega

/-- A chain of `n + 1` operands is read, and its tree is higher than `n`. -/
theorem parse_chain (n : Nat) :
    ∃ e, parse (String.ofList (Lexer.chainText n)) = .ok e ∧ n < e.height := by
  obtain ⟨ts, hts, hlexemes⟩ :=
    Lexer.tokensWith_chain n 0 (Nat.le_refl (Lexer.chainText n).length)
  have hfirst : Grammar.Derives .disjunction 0 [.str ""] (.literal (.str "")) :=
    .disjunction (.conjunction (.negation (.comparison (.unary (.str "")))))
  obtain ⟨e, hder, hheight⟩ := Grammar.derives_chain n hfirst
  refine ⟨e, parse_ok_iff.mpr ⟨ts, ?_, 1, by decide, ?_⟩, ?_⟩
  · unfold tokenize
    rw [String.toList_ofList]
    exact hts
  · rw [hlexemes]
    exact .whole hder
  · simp only [Expr.height] at hheight
    omega

/-- No multiple of the number of levels bounds the height of every tree that is
read. -/
theorem height_has_no_bound_by_levels :
    ¬ ∃ k, ∀ source e, parse source = .ok e → e.height ≤ k * maxNesting := by
  rintro ⟨k, hbound⟩
  obtain ⟨e, hparse, hheight⟩ := parse_chain (k * maxNesting)
  have hle := hbound _ e hparse
  omega

end Condition

end HookRules
