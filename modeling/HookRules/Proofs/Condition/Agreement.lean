/-
What the value of a condition depends on.

An expression looks at its context through its paths and at its registry through
its calls, and at nothing else. Two contexts that give each of its paths the same
value and two registries that answer every call alike therefore give it the same
value or the same failure (`eval_congr`). The induction is on the expression and
on lists of expressions together; the agreement on the paths of a whole tree is
handed down to its parts (`AgreeOn.mono`).

The verdict on a rule depends on its condition alone in the same way
(`Rule.verdict_agree`). A condition that is not compiled has no paths, and its
error comes from its text.
-/
import HookRules.Selection
import HookRules.Proofs.Condition.Names

namespace HookRules

/-- Registries that answer every call alike. -/
def Registry.Alike (r r' : Registry) : Prop :=
  ∀ name args, r.call name args = r'.call name args

namespace Condition

/-- Contexts that give the same values to the paths among some parts. -/
def AgreeOn (parts : List Expr) (ctx ctx' : Fields) : Prop :=
  ∀ root steps, .path root steps ∈ parts →
    resolve ctx root steps = resolve ctx' root steps

theorem AgreeOn.mono {parts inner : List Expr} {ctx ctx' : Fields}
    (h : AgreeOn parts ctx ctx') (hsub : inner ⊆ parts) :
    AgreeOn inner ctx ctx' :=
  fun root steps hpath => h root steps (hsub hpath)

section

variable {r r' : Registry} {ctx ctx' : Fields}

mutual

/-- An expression has the same value, or the same failure, for registries that
answer alike and contexts that agree on its paths. -/
theorem eval_congr (hcalls : r.Alike r') {e : Expr}
    (hpaths : AgreeOn e.parts ctx ctx') : eval r ctx e = eval r' ctx' e := by
  cases e with
  | literal v => rfl
  | list items =>
      have hitems : AgreeOn (Expr.partsOf items) ctx ctx' :=
        hpaths.mono (List.subset_cons_self _ _)
      rw [eval, eval, evalList_congr hcalls hitems]
  | path root steps =>
      rw [eval, eval, hpaths root steps (List.mem_cons_self ..)]
  | call name args =>
      have hargs : AgreeOn (Expr.partsOf args) ctx ctx' :=
        hpaths.mono (List.subset_cons_self _ _)
      rw [eval, eval, evalList_congr hcalls hargs]
      simp only [hcalls name]
  | not e =>
      have hinner : AgreeOn e.parts ctx ctx' :=
        hpaths.mono (List.subset_cons_self _ _)
      rw [eval, eval, eval_congr hcalls hinner]
  | neg e =>
      have hinner : AgreeOn e.parts ctx ctx' :=
        hpaths.mono (List.subset_cons_self _ _)
      rw [eval, eval, eval_congr hcalls hinner]
  | and lhs rhs | or lhs rhs | compare op lhs rhs =>
      have hboth : AgreeOn (lhs.parts ++ rhs.parts) ctx ctx' :=
        hpaths.mono (List.subset_cons_self _ _)
      rw [eval, eval,
        eval_congr hcalls (hboth.mono (List.subset_append_left _ _)),
        eval_congr hcalls (hboth.mono (List.subset_append_right _ _))]

theorem evalList_congr (hcalls : r.Alike r') {es : List Expr}
    (hpaths : AgreeOn (Expr.partsOf es) ctx ctx') :
    evalList r ctx es = evalList r' ctx' es := by
  cases es with
  | nil => rfl
  | cons e es =>
      rw [evalList, evalList,
        eval_congr hcalls (hpaths.mono (List.subset_append_left _ _)),
        evalList_congr hcalls (hpaths.mono (List.subset_append_right _ _))]

end

/-- A condition holds, or fails, in the same way. -/
theorem holds_congr (hcalls : r.Alike r') {c : Condition}
    (hpaths : ∀ e, c.program = some e → AgreeOn e.parts ctx ctx') :
    c.holds r ctx = c.holds r' ctx' := by
  unfold holds
  cases he : c.program with
  | none => rfl
  | some e => simp only [eval_congr hcalls (hpaths e he)]

end

end Condition

/-- Some path of the condition of a rule starts at a field. -/
def Rule.Reads (rule : Rule) (field : String) : Prop :=
  ∃ c e steps, Condition.compile rule.condition = .ok c
    ∧ c.program = some e ∧ .path field steps ∈ e.parts

/-- A rule gets the same verdict, a wrong condition with the same error. -/
theorem Rule.verdict_agree {r r' : Registry} {view view' : Fields}
    (hcalls : r.Alike r') (k : EventKind) {rule : Rule}
    (hfields : ∀ field, rule.Reads field → ∀ steps,
      Condition.resolve view field steps = Condition.resolve view' field steps) :
    rule.verdict r k view = rule.verdict r' k view' := by
  have hcondition : rule.conditionHolds r view
      = rule.conditionHolds r' view' := by
    unfold conditionHolds
    cases hc : Condition.compile rule.condition with
    | error err => rfl
    | ok c =>
        refine Condition.holds_congr hcalls fun e he field steps hpath => ?_
        exact hfields field ⟨c, e, steps, hc, he, hpath⟩ steps
  unfold verdict
  rw [hcondition]

end HookRules
