/-
The laws of the connectives.

A connective looks at an operand only for its truth, and at the right operand
only if the left one does not decide. What counts of an expression is therefore
its `truth`: true, false or a failure. On these three-way answers `and` and `or`
are two operations that obey the laws of a logic in which the first failure wins
(`conj_assoc`, `not_conj` and so on), and evaluation carries the laws over to
expressions. A failure that one side of a law leaves out is left out by the
other side too, because both sides look at their operands in the same order.

# Anywhere in a condition

The two sides of a law have equal evaluations and not just equal truth. A part
of a condition can therefore be replaced by the other side of a law wherever it
stands, also inside a list or an argument of a function (`Rewritten`), and the
condition keeps its value or its failure (`Rewritten.eval_eq`).
-/
import HookRules.Condition.Compile

namespace HookRules

namespace Condition

-- ================================================================ truth values

/-- The first answer, and the second one if the first is true. A failure of the
second is not seen if the first decides. -/
def conj (x y : Except EvalError Bool) : Except EvalError Bool :=
  x.bind fun p => if p then y else .ok false

/-- The first answer, and the second one if the first is false. -/
def disj (x y : Except EvalError Bool) : Except EvalError Bool :=
  x.bind fun p => if p then .ok true else y

section Answers

variable (x y z : Except EvalError Bool)

/-- Negation makes of `and` an `or` of the negations, failures included: both
look at the second answer in the same case. -/
theorem not_conj : (conj x y).map (!·) = disj (x.map (!·)) (y.map (!·)) := by
  cases x with
  | error cause => rfl
  | ok p => cases p <;> rfl

/-- The same with `and` and `or` exchanged. -/
theorem not_disj : (disj x y).map (!·) = conj (x.map (!·)) (y.map (!·)) := by
  cases x with
  | error cause => rfl
  | ok p => cases p <;> rfl

/-- A failure stays one under negation, and a truth value comes back. -/
theorem not_twice : (x.map (!·)).map (!·) = x := by
  cases x with
  | error cause => rfl
  | ok p => exact congrArg Except.ok (Bool.not_not p)

/-- However three answers are grouped, they are looked at from the left and up
to the first that is not true. -/
theorem conj_assoc : conj (conj x y) z = conj x (conj y z) := by
  cases x with
  | error cause => rfl
  | ok p => cases p <;> rfl

/-- The same up to the first that is not false. -/
theorem disj_assoc : disj (disj x y) z = disj x (disj y z) := by
  cases x with
  | error cause => rfl
  | ok p => cases p <;> rfl

end Answers

-- ========================================================== truth of expressions

section Evaluation

variable (r : Registry) (ctx : Fields)

/-- What an expression counts as. -/
def truth (e : Expr) : Except EvalError Bool := (eval r ctx e).map truthy

/-- The answer of an operator to the values of two expressions. -/
def compared (op : Operator) (lhs rhs : Expr) : Except EvalError Bool :=
  (eval r ctx lhs).bind fun v => (eval r ctx rhs).bind fun w => op.apply v w

variable {r ctx}

/-- The value of a negation is a truth value, and it needs no more of its
operand than the truth. -/
theorem eval_not (e : Expr) :
    eval r ctx (.not e) = ((truth r ctx e).map (!·)).map .bool := by
  rw [eval, truth]
  cases eval r ctx e <;> rfl

/-- Short circuit in terms of answers: if the left side is false, then what the
right side would do, fail for instance, is in neither side of the equation. -/
theorem eval_and (lhs rhs : Expr) :
    eval r ctx (.and lhs rhs)
      = (conj (truth r ctx lhs) (truth r ctx rhs)).map .bool := by
  rw [eval, truth, truth]
  cases eval r ctx lhs with
  | error cause => rfl
  | ok v =>
      -- both sides look at the right operand in one of the cases only
      show (if truthy v then _ else _) = (if truthy v then _ else _ : Except ..).map _
      cases truthy v with
      | false => rfl
      | true => cases eval r ctx rhs <;> rfl

/-- The same for a left side that is true. -/
theorem eval_or (lhs rhs : Expr) :
    eval r ctx (.or lhs rhs)
      = (disj (truth r ctx lhs) (truth r ctx rhs)).map .bool := by
  rw [eval, truth, truth]
  cases eval r ctx lhs with
  | error cause => rfl
  | ok v =>
      show (if truthy v then _ else _) = (if truthy v then _ else _ : Except ..).map _
      cases truthy v with
      | false => cases eval r ctx rhs <;> rfl
      | true => rfl

/-- A comparison looks at both values, the left one first, and all operators
answer with a truth value. -/
theorem eval_compare (op : Operator) (lhs rhs : Expr) :
    eval r ctx (.compare op lhs rhs)
      = (compared r ctx op lhs rhs).map .bool := by
  rw [eval, compared]
  cases eval r ctx lhs with
  | error cause => rfl
  | ok v => cases eval r ctx rhs <;> rfl

/-- An expression whose value is a truth value counts as that value. This takes
the equations of the values above to those of the truths below. -/
theorem truth_of_eval {e : Expr} {x : Except EvalError Bool}
    (h : eval r ctx e = x.map .bool) : truth r ctx e = x := by
  rw [truth, h]
  cases x <;> rfl

theorem truth_not (e : Expr) :
    truth r ctx (.not e) = (truth r ctx e).map (!·) :=
  truth_of_eval (eval_not e)

theorem truth_and (lhs rhs : Expr) :
    truth r ctx (.and lhs rhs) = conj (truth r ctx lhs) (truth r ctx rhs) :=
  truth_of_eval (eval_and lhs rhs)

theorem truth_or (lhs rhs : Expr) :
    truth r ctx (.or lhs rhs) = disj (truth r ctx lhs) (truth r ctx rhs) :=
  truth_of_eval (eval_or lhs rhs)

/-- What a comparison counts as is what its operator answers. -/
theorem truth_compare (op : Operator) (lhs rhs : Expr) :
    truth r ctx (.compare op lhs rhs) = compared r ctx op lhs rhs :=
  truth_of_eval (eval_compare op lhs rhs)

/-- If an operator always answers the negation of another one, so it does for
the values of expressions, which are found in the same order and fail alike. -/
theorem compared_negated {op negated : Operator}
    (h : ∀ v w, negated.apply v w = (op.apply v w).map (!·)) (lhs rhs : Expr) :
    compared r ctx negated lhs rhs = (compared r ctx op lhs rhs).map (!·) := by
  rw [compared, compared]
  cases eval r ctx lhs with
  | error cause => rfl
  | ok v =>
      cases eval r ctx rhs with
      | error cause => rfl
      | ok w => exact h v w

end Evaluation

-- ======================================================================== the laws

/-- Evaluations that give the same truth value, or fail for the same cause.
This is more than equality: it also says that the value is a truth value. -/
def SameAnswer (x y : Except EvalError Json) : Prop :=
  (∃ b, x = .ok (.bool b) ∧ y = .ok (.bool b))
    ∨ ∃ cause, x = .error cause ∧ y = .error cause

/-- Such evaluations are equal, which is what a replacement inside an
expression needs. -/
theorem SameAnswer.eq {x y : Except EvalError Json} (h : SameAnswer x y) :
    x = y := by
  rcases h with ⟨b, rfl, rfl⟩ | ⟨cause, rfl, rfl⟩ <;> rfl

/-- Two expressions with truth values as their values answer alike if their
truths agree. Every law below is this lemma at the two equations of its sides. -/
theorem SameAnswer.of_eq {x y : Except EvalError Json}
    {a b : Except EvalError Bool} (hx : x = a.map .bool) (hy : y = b.map .bool)
    (h : a = b) : SameAnswer x y := by
  subst h hx hy
  cases a with
  | ok p => exact Or.inl ⟨p, rfl, rfl⟩
  | error cause => exact Or.inr ⟨cause, rfl, rfl⟩

section Laws

variable {r : Registry} {ctx : Fields}

/-- The negation of a conjunction is the disjunction of the negations. -/
theorem not_and_law (a b : Expr) :
    SameAnswer (eval r ctx (.not (.and a b)))
      (eval r ctx (.or (.not a) (.not b))) := by
  refine .of_eq (eval_not _) (eval_or _ _) ?_
  rw [truth_and, truth_not, truth_not, not_conj]

/-- The negation of a disjunction is the conjunction of the negations. -/
theorem not_or_law (a b : Expr) :
    SameAnswer (eval r ctx (.not (.or a b)))
      (eval r ctx (.and (.not a) (.not b))) := by
  refine .of_eq (eval_not _) (eval_and _ _) ?_
  rw [truth_or, truth_not, truth_not, not_disj]

/-- A double negation is no identity: it makes a truth value of whatever value
its operand has. -/
theorem not_not_law (a : Expr) :
    SameAnswer (eval r ctx (.not (.not a)))
      ((eval r ctx a).map fun v => .bool (truthy v)) := by
  have htruth : ((eval r ctx a).map fun v => Json.bool (truthy v))
      = (truth r ctx a).map .bool := by
    rw [truth]
    cases eval r ctx a <;> rfl
  refine .of_eq (eval_not _) htruth ?_
  rw [truth_not, not_twice]

/-- Conjunctions can be grouped either way. -/
theorem and_assoc_law (a b c : Expr) :
    SameAnswer (eval r ctx (.and (.and a b) c))
      (eval r ctx (.and a (.and b c))) := by
  refine .of_eq (eval_and _ _) (eval_and _ _) ?_
  rw [truth_and, truth_and, conj_assoc]

/-- Disjunctions can be grouped either way. -/
theorem or_assoc_law (a b c : Expr) :
    SameAnswer (eval r ctx (.or (.or a b) c))
      (eval r ctx (.or a (.or b c))) := by
  refine .of_eq (eval_or _ _) (eval_or _ _) ?_
  rw [truth_or, truth_or, disj_assoc]

/-- An operator that always answers the negation of another one stands for the
negated comparison. -/
theorem negated_law {op negated : Operator}
    (h : ∀ v w, negated.apply v w = (op.apply v w).map (!·)) (a b : Expr) :
    SameAnswer (eval r ctx (.compare negated a b))
      (eval r ctx (.not (.compare op a b))) := by
  refine .of_eq (eval_compare _ _ _) (eval_not _) ?_
  rw [truth_compare, compared_negated h]

/-- `not in` answers, and fails, as the negation of `in` does. -/
theorem notMem_law (a b : Expr) :
    SameAnswer (eval r ctx (.compare .notMem a b))
      (eval r ctx (.not (.compare .mem a b))) :=
  negated_law (fun _ _ => rfl) a b

/-- `!=` answers as the negation of `==` does. Neither operator fails, so a
failure of one side is that of an operand, and of the other side too. -/
theorem ne_law (a b : Expr) :
    SameAnswer (eval r ctx (.compare .ne a b))
      (eval r ctx (.not (.compare .eq a b))) :=
  negated_law (fun _ _ => rfl) a b

end Laws

-- =========================================================== rewritten conditions

/-- An expression in which parts were replaced by the other sides of laws, in
either direction and at any depth. The double negation is not among them,
because its other side is a value and no expression. -/
inductive Rewritten : Expr → Expr → Prop where
  | not_and (a b) : Rewritten (.not (.and a b)) (.or (.not a) (.not b))
  | not_or (a b) : Rewritten (.not (.or a b)) (.and (.not a) (.not b))
  | and_assoc (a b c) : Rewritten (.and (.and a b) c) (.and a (.and b c))
  | or_assoc (a b c) : Rewritten (.or (.or a b) c) (.or a (.or b c))
  | notMem (a b) : Rewritten (.compare .notMem a b) (.not (.compare .mem a b))
  | ne (a b) : Rewritten (.compare .ne a b) (.not (.compare .eq a b))
  | refl (a) : Rewritten a a
  | symm {a b} : Rewritten a b → Rewritten b a
  | trans {a b c} : Rewritten a b → Rewritten b c → Rewritten a c
  | list (before after) {a b} : Rewritten a b →
      Rewritten (.list (before ++ a :: after)) (.list (before ++ b :: after))
  | call (name before after) {a b} : Rewritten a b →
      Rewritten (.call name (before ++ a :: after))
        (.call name (before ++ b :: after))
  | not {a b} : Rewritten a b → Rewritten (.not a) (.not b)
  | neg {a b} : Rewritten a b → Rewritten (.neg a) (.neg b)
  | and {a b c d} : Rewritten a b → Rewritten c d →
      Rewritten (.and a c) (.and b d)
  | or {a b c d} : Rewritten a b → Rewritten c d →
      Rewritten (.or a c) (.or b d)
  | compare (op) {a b c d} : Rewritten a b → Rewritten c d →
      Rewritten (.compare op a c) (.compare op b d)

section Rewriting

variable {r : Registry} {ctx : Fields}

/-- Items that evaluate alike can be exchanged: those before them decide as
before whether they are reached, and those after them whether all goes well. -/
theorem evalList_exchange {a b : Expr} (h : eval r ctx a = eval r ctx b)
    (before after : List Expr) :
    evalList r ctx (before ++ a :: after)
      = evalList r ctx (before ++ b :: after) := by
  induction before with
  | nil =>
      show evalList r ctx (a :: after) = evalList r ctx (b :: after)
      rw [evalList, evalList, h]
  | cons e before ih =>
      show evalList r ctx (e :: (before ++ a :: after))
        = evalList r ctx (e :: (before ++ b :: after))
      rw [evalList, evalList, ih]

/-- A rewritten expression has the same value, or fails for the same cause. The
laws are used at the root; the constructors around it evaluate their parts in
the order in which they did before. -/
theorem Rewritten.eval_eq {e e' : Expr} (h : Rewritten e e') :
    eval r ctx e = eval r ctx e' := by
  -- first the laws at the root, then what can stand around a replaced part
  induction h with
  | not_and a b => exact (not_and_law a b).eq
  | not_or a b => exact (not_or_law a b).eq
  | and_assoc a b c => exact (and_assoc_law a b c).eq
  | or_assoc a b c => exact (or_assoc_law a b c).eq
  | notMem a b => exact (notMem_law a b).eq
  | ne a b => exact (ne_law a b).eq
  | refl a => rfl
  | symm _ ih => exact ih.symm
  | trans _ _ ih ih' => exact ih.trans ih'
  | list before after _ ih =>
      rw [eval, eval, evalList_exchange ih before after]
  | call name before after _ ih =>
      rw [eval, eval, evalList_exchange ih before after]
  | not _ ih => rw [eval, eval, ih]
  | neg _ ih => rw [eval, eval, ih]
  | and _ _ ih ih' | or _ _ ih ih' | compare _ _ _ ih ih' =>
      rw [eval, eval, ih, ih']

/-- A condition with a rewritten tree holds in the same contexts, and fails in
the same ones for the same cause. -/
theorem holds_rewritten {source : String} {e e' : Expr} (h : Rewritten e e') :
    holds ⟨source, some e⟩ r ctx = holds ⟨source, some e'⟩ r ctx := by
  simp only [holds, h.eval_eq]

end Rewriting

-- ================================================================= both together

/-- Negation exchanges `and` with `or`, a double negation gives the truth of what
it negates, and `and` and `or` can be grouped either way. `not in` is the
negation of `in`, and `!=` that of `==`. Both sides of each law give the same
truth value or fail for the same cause, whatever their parts do.

So it makes no difference to a condition which sides it is written with: if parts
of it are replaced by the other sides of laws, at any depth and any number of
times, it holds in the same contexts and fails for the same causes. -/
theorem laws_of_connectives (r : Registry) (ctx : Fields) :
    (∀ a b c : Expr,
      SameAnswer (eval r ctx (.not (.and a b)))
          (eval r ctx (.or (.not a) (.not b)))
        ∧ SameAnswer (eval r ctx (.not (.or a b)))
          (eval r ctx (.and (.not a) (.not b)))
        ∧ SameAnswer (eval r ctx (.not (.not a)))
          ((eval r ctx a).map fun v => .bool (truthy v))
        ∧ SameAnswer (eval r ctx (.and (.and a b) c))
          (eval r ctx (.and a (.and b c)))
        ∧ SameAnswer (eval r ctx (.or (.or a b) c))
          (eval r ctx (.or a (.or b c)))
        ∧ SameAnswer (eval r ctx (.compare .notMem a b))
          (eval r ctx (.not (.compare .mem a b)))
        ∧ SameAnswer (eval r ctx (.compare .ne a b))
          (eval r ctx (.not (.compare .eq a b))))
    ∧ ∀ (source : String) (e e' : Expr), Rewritten e e' →
      holds ⟨source, some e⟩ r ctx = holds ⟨source, some e'⟩ r ctx :=
  ⟨fun a b c => ⟨not_and_law a b, not_or_law a b, not_not_law a,
    and_assoc_law a b c, or_assoc_law a b c, notMem_law a b, ne_law a b⟩,
    fun _ _ _ => holds_rewritten⟩

/-- The negation of a failing conjunction inside a list, written as a disjunction:
both conditions fail for the text that is compared with null. -/
theorem rewritten_inside_a_list :
    let r : Registry := { host := ⟨.empty, none, "/"⟩, cwd := "/" }
    let ctx : Fields := [("cwd", .str "/")]
    let wrong : Expr := .compare .lt (.path "cwd" []) (.literal .null)
    let yes : Expr := .literal (.bool true)
    let e : Expr := .list [yes, .not (.and yes wrong)]
    let e' : Expr := .list [yes, .or (.not yes) (.not wrong)]
    Rewritten e e'
      ∧ holds ⟨"", some e⟩ r ctx = holds ⟨"", some e'⟩ r ctx
      ∧ holds ⟨"", some e⟩ r ctx
        = .error ⟨"", .evaluation (.order .string .null)⟩ := by
  intro r ctx wrong yes e e'
  have h : Rewritten e e' := .list [yes] [] (.not_and yes wrong)
  exact ⟨h, (laws_of_connectives r ctx).2 "" e e' h, rfl⟩

end Condition

end HookRules
