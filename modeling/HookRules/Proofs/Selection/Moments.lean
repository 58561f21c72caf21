/-
Verdicts at two moments.

A condition looks at its context through its paths only. If each of them has the
same value in two contexts, the condition has the same value in both or fails for
the same cause, whatever else the contexts hold and whatever an evaluation of it
remembers (`Condition.holds_congr`, `Condition.evalIn_answers`).

The views of one event at two moments differ in the time and nowhere else
(`Context.view_at`). So a rule whose condition has no path to the time gets one
verdict at all moments (`Rule.verdict_at`). The trail of an event is taken at
another moment than the rules of a pass are matched; it tells the verdicts of the
pass (`Selection.verdict_of_trail`), and if no rule looks at the time, it tells the
whole selection (`Selection.select_at`).
-/
import HookRules.Engine
import HookRules.Proofs.Condition.Agreement
import HookRules.Proofs.Condition.Memory
import HookRules.Proofs.Event.ReadBack
import HookRules.Proofs.Selection.Trail

namespace HookRules

-- ===================================================================== views

/-- The time is the only field that depends on when a view is taken. -/
theorem Context.get?_view_at (c : Context) (timestamp other : String)
    {field : String} (h : field ≠ "timestamp") :
    Fields.get? (c.view timestamp) field = Fields.get? (c.view other) field := by
  rw [c.view_at timestamp other, Fields.get?_insert, if_neg h]

section

variable (c : Context) (timestamp other : String)

/-- A path to another field than the time has one value at all moments. -/
theorem Context.resolve_view_at {field : String} (h : field ≠ "timestamp")
    (steps : List Condition.Segment) :
    Condition.resolve (c.view timestamp) field steps
      = Condition.resolve (c.view other) field steps := by
  unfold Condition.resolve
  rw [c.get?_view_at timestamp other h]

-- ================================================================== verdicts

variable (registry : Registry) (k : EventKind)

/-- A rule that does not look at the time gets one verdict at all moments. -/
theorem Rule.verdict_at {rule : Rule} (h : ¬ rule.Reads "timestamp") :
    rule.verdict registry k (c.view timestamp)
      = rule.verdict registry k (c.view other) := by
  refine rule.verdict_agree (fun _ _ => rfl) k fun field hreads steps => ?_
  have hfield : field ≠ "timestamp" := by
    rintro rfl
    exact h hreads
  exact c.resolve_view_at timestamp other hfield steps

variable {rules : List Rule}

theorem Selection.select_at (h : ∀ rule ∈ rules, ¬ rule.Reads "timestamp") :
    select registry k (c.view timestamp) rules
      = select registry k (c.view other) rules := by
  have hkept : rules.filter
        (fun r => (r.verdict registry k (c.view timestamp)).isMatch)
      = rules.filter
        fun r => (r.verdict registry k (c.view other)).isMatch := by
    refine List.filter_congr fun rule hrule => ?_
    rw [Rule.verdict_at c timestamp other registry k (h rule hrule)]
  unfold select
  rw [hkept]

/-- What a trail tells of a rule is its verdict. -/
theorem Selection.verdict_of_trail (view : Fields) {i : Nat} {rule : Rule}
    (h : rules[i]? = some rule) :
    (trail registry k view rules)[i]?.map (·.verdict)
      = some (rule.verdict registry k view) := by
  rw [trail_eq, List.getElem?_map, List.getElem?_zipIdx, h]
  rfl

end

-- ============================================================== the two halves

/-- The value of a condition, or its failure, depends on its context only through
its paths, also if the evaluation remembers patterns, and whatever it remembers
from other evaluations.

So a trail that is taken at one moment tells the verdict that a rule gets in a
pass at another moment, unless the condition of the rule looks at the time. If
no rule looks at it, the rules that the trail numbers, in the order of their
numbers, are those that the pass runs. -/
theorem conditions_see_only_their_paths :
    (∀ (c : Condition) (r : Registry) (ctx ctx' : Fields),
      (∀ e, c.program = some e → ∀ root steps, .path root steps ∈ e.parts →
        Condition.resolve ctx root steps = Condition.resolve ctx' root steps) →
      c.holds r ctx = c.holds r ctx'
        ∧ ∀ e, c.program = some e →
          Condition.eval r ctx e = Condition.eval r ctx' e
            ∧ ∀ memory, (Condition.evalIn r ctx' e memory).map (·.1)
              = Condition.eval r ctx e)
    ∧ ∀ (e : Engine) (rules : List Rule) (c : Context) (now : Clock)
        (later : String),
      (∀ (i : Nat) (rule : Rule), rules[i]? = some rule →
          ¬ rule.Reads "timestamp" →
        (e.trail rules c later)[i]?.map (·.verdict)
          = some (rule.verdict (e.registry c) c.kind (c.view now.matching)))
      ∧ ((∀ rule ∈ rules, ¬ rule.Reads "timestamp") → ∀ world,
        (e.evaluateRulesIn world rules c now).outcome.matchedIds
          = (sortedBy (·.order)
              (Selection.numberedIn (e.trail rules c later) rules)).map
            (·.rule.id)) := by
  refine ⟨fun c r ctx ctx' hpaths => ?_, fun e rules c now later => ⟨?_, ?_⟩⟩
  · have halike : r.Alike r := fun _ _ => rfl
    refine ⟨Condition.holds_congr halike hpaths, fun e he => ?_⟩
    have heval := Condition.eval_congr halike (hpaths e he)
    exact ⟨heval, fun memory => (Condition.evalIn_answers e memory).trans heval.symm⟩
  · intro i rule hrule hreads
    have hverdict := Selection.verdict_of_trail (e.registry c) c.kind
      (c.view later) hrule
    rw [Rule.verdict_at c now.matching later _ _ hreads]
    exact hverdict
  · intro hreads world
    have hselect := Selection.select_at c now.matching later (e.registry c)
      c.kind hreads
    have hnumbered := Selection.sortedBy_numberedIn (e.registry c) c.kind
      (c.view later) rules
    show (Selection.select (e.registry c) c.kind (c.view now.matching)
      rules).map _ = _
    rw [hselect, ← hnumbered]
    rfl

/-- A condition that fails for its working directory fails in a context with a
prompt too. A trail taken later tells that failure, and that the other rule
runs. -/
theorem failure_seen_at_two_moments :
    let condition : Condition := ⟨"cwd < null",
      some (.compare .lt (.path "cwd" []) (.literal .null))⟩
    let wrong : Rule := { id := "wrong", condition := "cwd < null" }
    let plain : Rule := { id := "plain" }
    let e : Engine :=
      { host := ⟨.empty, none, "/"⟩
        runner := fun _ => .ok ⟨0, .exited 0, [], []⟩ }
    let c := Context.ofEvent "/" ⟨{ sessionId := "s" }, .stop false⟩
    let short : Fields := [("cwd", .str "/")]
    let long : Fields := [("cwd", .str "/"), ("prompt", .str "go")]
    condition.holds (e.registry c) short = condition.holds (e.registry c) long
      ∧ (∀ rule ∈ [wrong, plain], ¬ rule.Reads "timestamp")
      ∧ (e.trail [wrong, plain] c "later")[0]?.map (·.verdict)
        = some (wrong.verdict (e.registry c) c.kind (c.view "now"))
      ∧ wrong.verdict (e.registry c) c.kind (c.view "now")
        = .conditionError ⟨"cwd < null", .evaluation (.order .string .null)⟩
      ∧ (e.evaluateRulesIn e.world [wrong, plain] c ⟨"now", "soon"⟩).outcome.matchedIds
        = (sortedBy (·.order) (Selection.numberedIn
            (e.trail [wrong, plain] c "later") [wrong, plain])).map
          (·.rule.id) := by
  intro condition wrong plain e c short long
  have hpaths : ∀ tree, condition.program = some tree → ∀ root steps,
      .path root steps ∈ tree.parts →
      Condition.resolve short root steps = Condition.resolve long root steps := by
    rintro tree ⟨⟩ root steps hpath
    obtain ⟨rfl, rfl⟩ : root = "cwd" ∧ steps = [] := by
      simpa [Condition.Expr.parts] using hpath
    rfl
  have hcompiled : Condition.compile "cwd < null" = .ok ⟨"cwd < null",
      some (.compare .lt (.path "cwd" []) (.literal .null))⟩ := by
    rfl
  have hwrong : ¬ wrong.Reads "timestamp" := by
    rintro ⟨compiled, tree, steps, hc, htree, hpath⟩
    rw [hcompiled] at hc
    cases hc
    cases htree
    simp [Condition.Expr.parts] at hpath
  have hplain : ¬ plain.Reads "timestamp" := by
    rintro ⟨compiled, tree, steps, hc, htree, hpath⟩
    cases hc
    cases htree
  have hrules : ∀ rule ∈ [wrong, plain], ¬ rule.Reads "timestamp" := by
    intro rule hrule
    rcases List.mem_pair.mp hrule with rfl | rfl
    · exact hwrong
    · exact hplain
  have hverdict : wrong.verdict (e.registry c) c.kind (c.view "now")
      = .conditionError ⟨"cwd < null", .evaluation (.order .string .null)⟩ := by
    decide +kernel
  obtain ⟨hholds, htrails⟩ := conditions_see_only_their_paths
  obtain ⟨htold, hmatched⟩ := htrails e [wrong, plain] c ⟨"now", "soon"⟩ "later"
  exact ⟨(hholds condition (e.registry c) short long hpaths).1, hrules,
    htold 0 wrong rfl hwrong, hverdict, hmatched hrules e.world⟩

end HookRules
