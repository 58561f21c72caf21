/-
The grammar of conditions.

`Derives` says that a text, cut into lexemes, is a phrase of a category and
means a tree. Categories go from the loosest to the tightest: a whole condition,
`or`, `and`, `not`, one comparison, unary minus, terms. A connective is grouped
to the left because the phrase on its left is of the category itself and the one
on its right is not; a group leaves no trace because it means what stands
inside it.

# Nesting

Every derivation has a nesting, the number of levels that are open around its
deepest point. The rules `whole`, `not` and `neg` open a level, and no other
rule does. Groups, items of lists and arguments are whole conditions, so each of
them opens one.

# What a phrase starts with

No phrase starts with a closing lexeme, none below `not` starts with a negation
and no term starts with a minus (`Derives.head`). This is what a reader relies
on when it looks at one lexeme to choose a rule.
-/
import HookRules.Condition.Expr
import HookRules.Condition.Token

namespace HookRules

namespace Condition

namespace Grammar

-- ========================================================= words and signs

/-- The words that are literals. -/
def literalWords : List (String × Json) :=
  [("true", .bool true), ("True", .bool true), ("false", .bool false),
   ("False", .bool false), ("null", .null), ("none", .null), ("None", .null)]

/-- The words that are operators. -/
def operatorWords : List String := ["and", "or", "not", "in", "matches"]

/-- A word that can start a path or, by itself, name a function. -/
structure IsName (word : String) : Prop where
  noOperator : word ∉ operatorWords
  noLiteral : ∀ v, (word, v) ∉ literalWords

def orSigns : List Lexeme := [.or, .word "or"]

def andSigns : List Lexeme := [.and, .word "and"]

def notSigns : List Lexeme := [.bang, .word "not"]

/-- How an operator is written. -/
def operatorText : Operator → List Lexeme
  | .eq => [.eq]
  | .ne => [.ne]
  | .lt => [.lt]
  | .le => [.le]
  | .gt => [.gt]
  | .ge => [.ge]
  | .mem => [.word "in"]
  | .notMem => [.word "not", .word "in"]
  | .search => [.search]
  | .glob => [.word "matches"]

-- ================================================================== paths

/-- One step of a path. After a dot every word is a field name, also one that
means something elsewhere; only brackets count from the end. -/
inductive Step : List Lexeme → Segment → Prop where
  | field (name : String) : Step [.dot, .word name] (.key name)
  | place (i : Int) : Step [.dot, .num (.int i)] (.index i)
  | key (name : String) :
      Step [.openBracket, .str name, .closeBracket] (.key name)
  | index (i : Int) :
      Step [.openBracket, .num (.int i), .closeBracket] (.index i)
  | fromEnd (i : Int) :
      Step [.openBracket, .minus, .num (.int i), .closeBracket] (.index (-i))

inductive Steps : List Lexeme → List Segment → Prop where
  | nil : Steps [] []
  | cons {text more : List Lexeme} {s : Segment} {rest : List Segment}
      (h : Step text s) (hrest : Steps more rest) :
      Steps (text ++ more) (s :: rest)

-- ================================================================ phrases

/-- The categories of phrases. -/
inductive Category where
  | whole | disjunction | conjunction | negation | comparison | unary | term
deriving DecidableEq

/-- A whole condition among items, with the nesting of its derivation. -/
structure Item where
  nesting : Nat
  text : List Lexeme
  tree : Expr

/-- Items with commas between them. -/
def listed : List Item → List Lexeme
  | [] => []
  | i :: rest => i.text ++ rest.flatMap fun j => .comma :: j.text

/-- The nesting of the deepest item. -/
def deepest : List Item → Nat
  | [] => 0
  | i :: rest => max i.nesting (deepest rest)

/-- A text is a phrase of a category, by a derivation of some nesting, and means
a tree. -/
inductive Derives : Category → Nat → List Lexeme → Expr → Prop where
  /-- A whole condition opens a level. -/
  | whole {n : Nat} {text : List Lexeme} {e : Expr}
      (h : Derives .disjunction n text e) : Derives .whole (n + 1) text e
  | disjunction {n : Nat} {text : List Lexeme} {e : Expr}
      (h : Derives .conjunction n text e) : Derives .disjunction n text e
  | or {m n : Nat} {left right : List Lexeme} {s : Lexeme} {e f : Expr}
      (hl : Derives .disjunction m left e) (hs : s ∈ orSigns)
      (hr : Derives .conjunction n right f) :
      Derives .disjunction (max m n) (left ++ s :: right) (.or e f)
  | conjunction {n : Nat} {text : List Lexeme} {e : Expr}
      (h : Derives .negation n text e) : Derives .conjunction n text e
  | and {m n : Nat} {left right : List Lexeme} {s : Lexeme} {e f : Expr}
      (hl : Derives .conjunction m left e) (hs : s ∈ andSigns)
      (hr : Derives .negation n right f) :
      Derives .conjunction (max m n) (left ++ s :: right) (.and e f)
  | negation {n : Nat} {text : List Lexeme} {e : Expr}
      (h : Derives .comparison n text e) : Derives .negation n text e
  /-- What is negated opens a level. -/
  | not {n : Nat} {text : List Lexeme} {s : Lexeme} {e : Expr}
      (hs : s ∈ notSigns) (h : Derives .negation n text e) :
      Derives .negation (n + 1) (s :: text) (.not e)
  | comparison {n : Nat} {text : List Lexeme} {e : Expr}
      (h : Derives .unary n text e) : Derives .comparison n text e
  | compare {m n : Nat} {left right : List Lexeme} {e f : Expr} (op : Operator)
      (hl : Derives .unary m left e) (hr : Derives .unary n right f) :
      Derives .comparison (max m n) (left ++ (operatorText op ++ right))
        (.compare op e f)
  | unary {n : Nat} {text : List Lexeme} {e : Expr}
      (h : Derives .term n text e) : Derives .unary n text e
  /-- What a minus applies to opens a level. -/
  | neg {n : Nat} {text : List Lexeme} {e : Expr} (h : Derives .unary n text e) :
      Derives .unary (n + 1) (.minus :: text) (.neg e)
  | str (s : String) : Derives .term 0 [.str s] (.literal (.str s))
  | num (n : Number) : Derives .term 0 [.num n] (.literal (.num n))
  | word {name : String} {v : Json} (h : (name, v) ∈ literalWords) :
      Derives .term 0 [.word name] (.literal v)
  | group {n : Nat} {text : List Lexeme} {e : Expr}
      (h : Derives .whole n text e) :
      Derives .term n (.openParen :: (text ++ [.closeParen])) e
  | list (items : List Item)
      (h : ∀ i, i ∈ items → Derives .whole i.nesting i.text i.tree) :
      Derives .term (deepest items)
        (.openBracket :: (listed items ++ [.closeBracket]))
        (.list (items.map (·.tree)))
  /-- After a dollar sign every word names a function. -/
  | dollarCall (name : String) (items : List Item)
      (h : ∀ i, i ∈ items → Derives .whole i.nesting i.text i.tree) :
      Derives .term (deepest items)
        (.dollar :: .word name :: .openParen :: (listed items ++ [.closeParen]))
        (.call name (items.map (·.tree)))
  | call {name : String} (hname : IsName name) (items : List Item)
      (h : ∀ i, i ∈ items → Derives .whole i.nesting i.text i.tree) :
      Derives .term (deepest items)
        (.word name :: .openParen :: (listed items ++ [.closeParen]))
        (.call name (items.map (·.tree)))
  | path {root : String} {text : List Lexeme} {segments : List Segment}
      (hroot : IsName root) (h : Steps text segments) :
      Derives .term 0 (.word root :: text) (.path root segments)

-- ================================================ what a phrase starts with

/-- The lexemes that a phrase of a category can start with, as far as a reader
tells them apart. -/
structure Leads (c : Category) (l : Lexeme) : Prop where
  opens : l ≠ .closeParen ∧ l ≠ .closeBracket
  /-- Only negations start with a sign of negation. -/
  notNegated : c = .comparison ∨ c = .unary ∨ c = .term → l ∉ notSigns
  /-- Only opposites start with a minus. -/
  notOpposite : c = .term → l ≠ .minus

/-- A lexeme that leads a term leads a phrase of every category. -/
theorem Leads.of_term {c : Category} {l : Lexeme} (h : Leads .term l) :
    Leads c l :=
  ⟨h.opens, fun _ => h.notNegated (Or.inr (Or.inr rfl)),
    fun _ => h.notOpposite rfl⟩

/-- What leads any phrase leads those that may be negations. -/
theorem Leads.loose {c d : Category} {l : Lexeme} (h : Leads c l)
    (hd : ¬ (d = .comparison ∨ d = .unary ∨ d = .term)) : Leads d l :=
  ⟨h.opens, fun htight => absurd htight hd,
    fun hterm => absurd (Or.inr (Or.inr hterm)) hd⟩

/-- What leads an opposite leads a comparison. -/
theorem Leads.compared {l : Lexeme} (h : Leads .unary l) :
    Leads .comparison l :=
  ⟨h.opens, fun _ => h.notNegated (Or.inr (Or.inl rfl)), nofun⟩

/-- A sign that is no closing one, no negation and no minus leads a term. -/
theorem leads_sign {l : Lexeme} (hopens : l ≠ .closeParen ∧ l ≠ .closeBracket)
    (hsign : l ∉ notSigns) (hminus : l ≠ .minus) : Leads .term l :=
  ⟨hopens, fun _ => hsign, fun _ => hminus⟩

/-- A text is not empty and starts as phrases of a category do. -/
def Starts (c : Category) (text : List Lexeme) : Prop :=
  ∃ l more, text = l :: more ∧ Leads c l

theorem Starts.append {c : Category} {text : List Lexeme} (h : Starts c text)
    (more : List Lexeme) : Starts c (text ++ more) := by
  obtain ⟨l, rest, rfl, hl⟩ := h
  exact ⟨l, rest ++ more, rfl, hl⟩

theorem Starts.imp {c d : Category} {text : List Lexeme} (h : Starts c text)
    (himp : ∀ l, Leads c l → Leads d l) : Starts d text := by
  obtain ⟨l, more, rfl, hl⟩ := h
  exact ⟨l, more, rfl, himp l hl⟩

/-- A literal is not written as a negation. -/
theorem literalWords_ne_not {name : String} {v : Json}
    (h : (name, v) ∈ literalWords) : name ≠ "not" := by
  rintro rfl
  simp [literalWords] at h

/-- A word that is not `not` leads a term. -/
theorem leads_word {name : String} (h : name ≠ "not") :
    Leads .term (.word name) := by
  refine ⟨⟨nofun, nofun⟩, fun _ hmem => ?_, fun _ => nofun⟩
  simp [notSigns, h] at hmem

theorem IsName.ne_not {name : String} (h : IsName name) : name ≠ "not" := by
  rintro rfl
  exact h.noOperator (by decide)

/-- A phrase is not empty, and what it starts with tells it apart. -/
theorem Derives.head {c : Category} {n : Nat} {text : List Lexeme} {e : Expr}
    (h : Derives c n text e) : Starts c text := by
  induction h with
  | whole _ ih => exact ih.imp fun _ hl => hl.loose (by decide)
  | disjunction _ ih => exact ih.imp fun _ hl => hl.loose (by decide)
  | or _ _ _ ih _ => exact ih.append _
  | conjunction _ ih => exact ih.imp fun _ hl => hl.loose (by decide)
  | and _ _ _ ih _ => exact ih.append _
  | negation _ ih => exact ih.imp fun _ hl => hl.loose (by decide)
  | not hs _ _ =>
      refine ⟨_, _, rfl, ?_, nofun, nofun⟩
      rcases List.mem_cons.mp hs with rfl | hs
      · exact ⟨nofun, nofun⟩
      · rw [List.mem_singleton.mp hs]
        exact ⟨nofun, nofun⟩
  | comparison _ ih => exact ih.imp fun _ hl => hl.compared
  | compare _ _ _ ih _ => exact (ih.imp fun _ hl => hl.compared).append _
  | unary _ ih => exact ih.imp fun _ hl => hl.of_term
  | neg _ _ => exact ⟨_, _, rfl, ⟨nofun, nofun⟩, fun _ => by decide, nofun⟩
  | str s =>
      exact ⟨_, _, rfl, leads_sign ⟨nofun, nofun⟩ (by simp [notSigns]) nofun⟩
  | num n =>
      exact ⟨_, _, rfl, leads_sign ⟨nofun, nofun⟩ (by simp [notSigns]) nofun⟩
  | word hword => exact ⟨_, _, rfl, leads_word (literalWords_ne_not hword)⟩
  | group _ _ =>
      exact ⟨_, _, rfl, leads_sign ⟨nofun, nofun⟩ (by decide) nofun⟩
  | list items _ _ =>
      exact ⟨_, _, rfl, leads_sign ⟨nofun, nofun⟩ (by decide) nofun⟩
  | dollarCall name items _ _ =>
      exact ⟨_, _, rfl, leads_sign ⟨nofun, nofun⟩ (by decide) nofun⟩
  | call hname items _ _ => exact ⟨_, _, rfl, leads_word hname.ne_not⟩
  | path hroot _ => exact ⟨_, _, rfl, leads_word hroot.ne_not⟩

end Grammar

end Condition

end HookRules
