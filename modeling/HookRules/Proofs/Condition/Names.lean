/-
The names that a condition uses, in its tree and in its text.

# In the tree

`Expr.parts` visits every part of a tree, a part before what is inside it. The
roots of paths and the names of calls among the parts are the symbols of the
tree, in the same order (`Expr.symbols_eq`).

# In the text

A text shows its names without being read as a tree. A word after a dot is a
field and a word after a dollar sign a function; any other word that is no
literal and no operator is a function before an opening parenthesis and the root
of a path elsewhere (`named`). In a phrase these are the symbols of its tree, in
the same order, unless a parenthesis follows that would make a call of its last
word (`Shows`, `Derives.shows`). So the symbols of a condition stand in its text
from left to right (`symbols_of_parse`).
-/
import HookRules.Proofs.Condition.Completeness
import HookRules.Proofs.Condition.Places

namespace HookRules

namespace Condition

-- ============================================================ parts of a tree

namespace Expr

mutual

/-- The parts of a tree, itself first, and each before those inside it. -/
def parts : Expr → List Expr
  | .literal v => [.literal v]
  | .list items => .list items :: partsOf items
  | .path root steps => [.path root steps]
  | .call name args => .call name args :: partsOf args
  | .not e => .not e :: e.parts
  | .neg e => .neg e :: e.parts
  | .and lhs rhs => .and lhs rhs :: (lhs.parts ++ rhs.parts)
  | .or lhs rhs => .or lhs rhs :: (lhs.parts ++ rhs.parts)
  | .compare op lhs rhs => .compare op lhs rhs :: (lhs.parts ++ rhs.parts)

/-- The parts of trees, one tree after the other. -/
def partsOf : List Expr → List Expr
  | [] => []
  | e :: es => e.parts ++ partsOf es

end

/-- The name that a part uses by itself. -/
def ownSymbol? : Expr → Option Symbol
  | .path root _ => some (.variable root)
  | .call name _ => some (.function name)
  | _ => none

mutual

/-- The symbols of a tree are the names of its parts. -/
theorem symbols_eq (e : Expr) : e.symbols = e.parts.filterMap ownSymbol? := by
  cases e with
  | literal v => rfl
  | list items => exact symbolsOf_eq items
  | path root steps => rfl
  | call name args => exact congrArg (.function name :: ·) (symbolsOf_eq args)
  | not e => exact e.symbols_eq
  | neg e => exact e.symbols_eq
  | and lhs rhs | or lhs rhs | compare _ lhs rhs =>
      rw [symbols, parts, List.filterMap_cons_none rfl, List.filterMap_append,
        lhs.symbols_eq, rhs.symbols_eq]

/-- The same for trees in a row. -/
theorem symbolsOf_eq (es : List Expr) :
    symbolsOf es = (partsOf es).filterMap ownSymbol? := by
  cases es with
  | nil => rfl
  | cons e es =>
      rw [symbolsOf, partsOf, List.filterMap_append, e.symbols_eq,
        symbolsOf_eq es]

end

/-- A variable is a symbol of a tree if some path of it starts there. -/
theorem variable_mem_symbols {e : Expr} {root : String} :
    .variable root ∈ e.symbols ↔ ∃ steps, .path root steps ∈ e.parts := by
  rw [symbols_eq, List.mem_filterMap]
  constructor
  · rintro ⟨part, hpart, hown⟩
    cases part with
    | path root steps =>
        cases hown
        exact ⟨steps, hpart⟩
    | _ => cases hown
  · rintro ⟨steps, hpart⟩
    exact ⟨_, hpart, rfl⟩

/-- A function is a symbol of a tree if some part of it calls it, with whatever
arguments. -/
theorem function_mem_symbols {e : Expr} {name : String} :
    .function name ∈ e.symbols ↔ ∃ args, .call name args ∈ e.parts := by
  rw [symbols_eq, List.mem_filterMap]
  constructor
  · rintro ⟨part, hpart, hown⟩
    cases part with
    | call name args =>
        cases hown
        exact ⟨args, hpart⟩
    | _ => cases hown
  · rintro ⟨args, hpart⟩
    exact ⟨_, hpart, rfl⟩

end Expr

-- ============================================================= names in a text

open Grammar HookRules.Condition.Parser

instance (word : String) : Decidable (IsName word) :=
  decidable_of_iff _ isName_iff.symm

/-- A text goes on with the parenthesis of a call. This is all that tells a
function from a variable when there is no dollar sign. -/
def OpensCall (text : List Lexeme) : Prop := text.head? = some .openParen

instance (text : List Lexeme) : Decidable (OpensCall text) :=
  inferInstanceAs (Decidable (_ = _))

/-- Two texts in a row make no call of what is before them if neither does: the
first may be empty, and then the second is next. -/
theorem not_opensCall_append {left right : List Lexeme} (h : ¬ OpensCall left)
    (hright : ¬ OpensCall right) : ¬ OpensCall (left ++ right) := by
  cases left with
  | nil => exact hright
  | cons l left => exact h

theorem not_opensCall_cons {l : Lexeme} (h : l ≠ .openParen)
    (text : List Lexeme) : ¬ OpensCall (l :: text) :=
  fun hopens => h (Option.some.inj hopens)

/-- The names that tokens show, each with its place. A word after a dot is the
field of a path and no name. -/
def named : List Token → List (Symbol × Nat)
  | [] => []
  | ⟨.dot, _⟩ :: ⟨.word _, _⟩ :: ts => named ts
  | ⟨.dollar, place⟩ :: ⟨.word name, _⟩ :: ts =>
      (.function name, place) :: named ts
  | ⟨.word name, place⟩ :: ts =>
      if IsName name then
        (if OpensCall (lexemes ts) then .function name else .variable name,
          place) :: named ts
      else named ts
  | _ :: ts => named ts

/-- The places of the names are those of tokens, from left to right. -/
theorem named_places (ts : List Token) :
    ((named ts).map (·.2)).Sublist (ts.map (·.position)) := by
  fun_induction named ts with
  | case1 => exact List.Sublist.slnil
  | case2 _ _ _ _ ih => exact (ih.cons _).cons _
  | case3 _ _ _ _ ih => exact (ih.cons _).cons_cons _
  | case4 _ _ _ _ ih => exact ih.cons_cons _
  | case5 _ _ _ _ ih => exact ih.cons _
  | case6 _ _ _ _ _ ih => exact ih.cons _

/-- The names in the text of a condition stand one after the other. -/
theorem named_ascending {source : String} {ts : List Token}
    (h : tokenize source = .ok ts) :
    (named ts).Pairwise fun s t => s.2 < t.2 :=
  List.pairwise_map.mp (List.Pairwise.sublist (named_places ts)
    (List.pairwise_map.mpr (tokenize_ascending h)))

-- ============================================================ names of phrases

/-- A lexeme that shows no name, whatever follows it. -/
def isMute : Lexeme → Bool
  | .dot => false
  | .dollar => false
  | .word word => !decide (IsName word)
  | _ => true

/-- A lexeme that shows no name and makes no call. -/
def Separates (l : Lexeme) : Prop := isMute l = true ∧ l ≠ .openParen

instance (l : Lexeme) : Decidable (Separates l) :=
  inferInstanceAs (Decidable (_ ∧ _))

/-- The signs of the connectives stand between two parts and show nothing, also
where they are words. -/
theorem separates_connectives :
    ∀ l ∈ orSigns ++ andSigns ++ notSigns, Separates l := by
  decide

/-- So do the signs of the operators, all of those of one that has two. -/
theorem separates_operator (op : Operator) :
    ∀ l ∈ operatorText op, Separates l := by
  cases op <;> decide

/-- A literal that is a word is not taken for a name. -/
theorem isMute_literal {name : String} {v : Json}
    (h : (name, v) ∈ literalWords) : isMute (.word name) = true := by
  have hname : ¬ IsName name := fun hname => hname.noLiteral v h
  simp [isMute, hname]

/-- A lexeme without a name adds none, wherever it stands. -/
theorem named_of_mute {l : Lexeme} (h : isMute l = true) (p : Nat)
    (ts : List Token) : named (⟨l, p⟩ :: ts) = named ts := by
  cases l with
  | dot => cases h
  | dollar => cases h
  | word word =>
      have hname : ¬ IsName word := by simpa [isMute] using h
      rw [named, if_neg hname]
  | _ => rw [named] <;> nofun

/-- The tokens of a text show some names, wherever they stand and whatever
follows them, as long as it is not the parenthesis of a call. -/
def Shows (text : List Lexeme) (names : List Symbol) : Prop :=
  ∀ front rest, lexemes front = text → ¬ OpensCall (lexemes rest) →
    (named (front ++ rest)).map (·.1) = names ++ (named rest).map (·.1)

namespace Shows

variable {left right text : List Lexeme} {names more : List Symbol}
  {l : Lexeme}

theorem nil : Shows [] [] := by
  intro front rest hfront _
  rw [lexemes_eq_nil hfront]
  rfl

/-- A text that does not make a call of what is before it shows its names after
the others. -/
theorem append (h : Shows left names) (hright : Shows right more)
    (hcall : ¬ OpensCall right) : Shows (left ++ right) (names ++ more) := by
  intro front rest hfront hrest
  obtain ⟨us, vs, rfl, hus, hvs⟩ := lexemes_eq_append hfront
  have hnext : ¬ OpensCall (lexemes (vs ++ rest)) := by
    rw [lexemes_append, hvs]
    exact not_opensCall_append hcall hrest
  rw [List.append_assoc, h us _ hus hnext, hright vs rest hvs hrest,
    List.append_assoc]

/-- A lexeme without a name can stand in front. -/
theorem mute (h : Shows text names) (hl : isMute l = true) :
    Shows (l :: text) names := by
  intro front rest hfront hrest
  obtain ⟨p, us, rfl, hus⟩ := lexemes_eq_cons hfront
  rw [List.cons_append, named_of_mute hl]
  exact h us rest hus hrest

/-- A sign between two parts. -/
theorem join (h : Shows left names) (hl : Separates l)
    (hright : Shows right more) : Shows (left ++ l :: right) (names ++ more) :=
  h.append (hright.mute hl.1) (not_opensCall_cons hl.2 right)

/-- A closing sign. -/
theorem close (h : Shows text names) (hl : Separates l) :
    Shows (text ++ [l]) names := by
  have hclose := h.join hl nil
  rwa [List.append_nil] at hclose

/-- Signs in front. -/
theorem signs {text : List Lexeme} (htext : ∀ l ∈ text, Separates l)
    (hright : Shows right more) : Shows (text ++ right) more := by
  induction text with
  | nil => exact hright
  | cons l text ih =>
      obtain ⟨hl, htext⟩ := List.forall_mem_cons.mp htext
      exact (ih htext).mute hl.1

/-- The step of a path shows nothing. A word after a dot goes with it. -/
theorem step {segment : Segment} (hstep : Step left segment)
    (h : Shows text names) : Shows (left ++ text) names := by
  cases hstep with
  | field _ | place _ =>
      intro front rest hfront hrest
      obtain ⟨p, us, rfl, hus⟩ := lexemes_eq_cons hfront
      obtain ⟨q, vs, rfl, hvs⟩ := lexemes_eq_cons hus
      exact h vs rest hvs hrest
  | key _ | index _ | fromEnd _ =>
      exact signs (by simp [Separates, isMute]) h

/-- The steps of a path show nothing. -/
theorem steps {segments : List Segment} (h : Steps text segments) :
    Shows text [] ∧ ¬ OpensCall text := by
  induction h with
  | nil => exact ⟨nil, nofun⟩
  | cons hstep _ ih =>
      refine ⟨step hstep ih.1, fun hopens => ?_⟩
      cases hstep <;> cases hopens

/-- A path shows its root, unless what follows would make it a call. -/
theorem path {root : String} (hroot : IsName root) (h : Shows text names)
    (hcall : ¬ OpensCall text) :
    Shows (.word root :: text) (.variable root :: names) := by
  intro front rest hfront hrest
  obtain ⟨p, us, rfl, hus⟩ := lexemes_eq_cons hfront
  have hvariable : ¬ OpensCall (lexemes (us ++ rest)) := by
    rw [lexemes_append, hus]
    exact not_opensCall_append hcall hrest
  rw [List.cons_append, named, if_pos hroot, if_neg hvariable]
  exact congrArg (Symbol.variable root :: ·) (h us rest hus hrest)

/-- A name before a parenthesis shows a function, and what is between the
parentheses shows the rest. -/
theorem call {name : String} (hname : IsName name)
    (h : Shows (.openParen :: text) names) :
    Shows (.word name :: .openParen :: text) (.function name :: names) := by
  intro front rest hfront hrest
  obtain ⟨p, us, rfl, hus⟩ := lexemes_eq_cons hfront
  have hcall : OpensCall (lexemes (us ++ rest)) := by
    rw [lexemes_append, hus]
    rfl
  rw [List.cons_append, named, if_pos hname, if_pos hcall]
  exact congrArg (Symbol.function name :: ·) (h us rest hus hrest)

/-- With a dollar sign any word is a function, even one that is a keyword. -/
theorem dollarCall (h : Shows text names) (name : String) :
    Shows (.dollar :: .word name :: text) (.function name :: names) := by
  intro front rest hfront hrest
  obtain ⟨p, us, rfl, hus⟩ := lexemes_eq_cons hfront
  obtain ⟨q, vs, rfl, hvs⟩ := lexemes_eq_cons hus
  exact congrArg (Symbol.function name :: ·) (h vs rest hvs hrest)

section Items

variable {items : List Item}

/-- Further items show the names of their trees. -/
theorem more_items (h : ∀ i, i ∈ items → Shows i.text i.tree.symbols) :
    Shows (items.flatMap fun i => .comma :: i.text)
        (Expr.symbolsOf (items.map (·.tree)))
      ∧ ¬ OpensCall (items.flatMap fun i => .comma :: i.text) := by
  induction items with
  | nil => exact ⟨nil, nofun⟩
  | cons i items ih =>
      obtain ⟨hitem, hitems⟩ := List.forall_mem_cons.mp h
      obtain ⟨hrest, hcall⟩ := ih hitems
      rw [List.flatMap_cons]
      exact ⟨(hitem.append hrest hcall).mute rfl,
        not_opensCall_cons (by decide) _⟩

/-- Items between an opening and a closing sign show the names of their
trees. -/
theorem enclosed {opening closing : Lexeme}
    (h : ∀ i, i ∈ items → Shows i.text i.tree.symbols)
    (hopening : isMute opening = true) (hclosing : Separates closing) :
    Shows (opening :: (listed items ++ [closing]))
      (Expr.symbolsOf (items.map (·.tree))) := by
  refine Shows.mute (Shows.close ?_ hclosing) hopening
  cases items with
  | nil => exact nil
  | cons i items =>
      obtain ⟨hitem, hitems⟩ := List.forall_mem_cons.mp h
      obtain ⟨hrest, hcall⟩ := more_items hitems
      exact hitem.append hrest hcall

end Items

end Shows

/-- A phrase shows the symbols of its tree. -/
theorem Derives.shows {c : Category} {n : Nat} {text : List Lexeme} {e : Expr}
    (h : Derives c n text e) : Shows text e.symbols := by
  induction h with
  | whole _ ih | disjunction _ ih | conjunction _ ih | negation _ ih
  | comparison _ ih | unary _ ih => exact ih
  | or _ hs _ ihl ihr =>
      exact ihl.join (separates_connectives _ (by simp [hs])) ihr
  | and _ hs _ ihl ihr =>
      exact ihl.join (separates_connectives _ (by simp [hs])) ihr
  | not hs _ ih => exact ih.mute (separates_connectives _ (by simp [hs])).1
  | neg _ ih => exact ih.mute rfl
  | compare op _ _ ihl ihr =>
      refine ihl.append (Shows.signs (separates_operator op) ihr) ?_
      cases op <;> exact not_opensCall_cons (by decide) _
  | str _ | num _ => exact Shows.nil.mute rfl
  | word hword => exact Shows.nil.mute (isMute_literal hword)
  | group _ ih => exact (ih.close (by decide)).mute rfl
  | list items _ ih => exact Shows.enclosed ih rfl (by decide)
  | dollarCall name items _ ih =>
      exact (Shows.enclosed ih rfl (by decide)).dollarCall name
  | call hname items _ ih =>
      exact (Shows.enclosed ih rfl (by decide)).call hname
  | path hroot hsteps =>
      obtain ⟨hshows, hcall⟩ := Shows.steps hsteps
      exact hshows.path hroot hcall

/-- The names in the text of a condition are the symbols of its tree, from left
to right. -/
theorem symbols_of_parse {source : String} {e : Expr}
    (h : parse source = .ok e) :
    ∃ ts, tokenize source = .ok ts ∧ (named ts).map (·.1) = e.symbols := by
  obtain ⟨ts, hts, n, -, hder⟩ := parse_ok_iff.mp h
  have hshows := Derives.shows hder ts [] rfl nofun
  rw [List.append_nil] at hshows
  exact ⟨ts, hts, hshows.trans (List.append_nil _)⟩

end Condition

end HookRules
