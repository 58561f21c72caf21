/-
The course of a pass.

# Actions that all run

What an action contributes depends on what the pass has come to, and that
depends on the actions before it alone: effects and entries count whether an
action is done, fails or refuses. So a list of actions has a run that nothing
stops (`contributions`, `Progress.through`), and the run of `runActions` is a
prefix of it. It is the whole list if no action refuses (`Finishes`), and else
it ends with the first action that does. `runActions_of_finishes` and
`runActions_of_refusal` are the two equations; nothing below opens `runActions`
again.

# Rules

`Course` says the same of rules. The selected rules are those that ran to their
end, the one that refused (if one did) and those that were left; every part of
the summary is told by the rules that ran to their end alone. The induction of
`runRules_course` is over the selected rules with the start of the pass left
open, since each rule starts from where the one before it led.
-/
import HookRules.Engine

namespace HookRules

-- =================================================== actions that all run

/-- The record of an action with this contribution. Only a failure is an
error. -/
def Contribution.record (c : Contribution) (a : Action) : ActionRecord where
  kind := a.kind
  error := match c.ending with
    | .failed fault => some fault.message
    | _ => none

section Actions

variable (act : Progress → Action → Contribution)

/-- What actions contribute if all of them run. -/
def contributions : Progress → List Action → List Contribution
  | _, [] => []
  | p, a :: rest => act p a :: contributions (p.add (act p a)) rest

/-- Where actions lead if all of them run. -/
def Progress.through (p : Progress) (actions : List Action) : Progress :=
  actions.foldl (fun p a => p.add (act p a)) p

/-- No action refuses when all of them run. -/
def Finishes (p : Progress) (actions : List Action) : Prop :=
  ∀ c ∈ contributions act p actions, c.ending.refusal? = none

/-- The records of actions that all run, one for each. -/
def actionRecords (p : Progress) (actions : List Action) : List ActionRecord :=
  List.zipWith Contribution.record (contributions act p actions) actions

/-- No action refuses in an empty list. -/
theorem finishes_nil (p : Progress) : Finishes act p [] := by
  intro c hc
  cases hc

theorem finishes_cons {p : Progress} {a : Action} {rest : List Action} :
    Finishes act p (a :: rest)
      ↔ (act p a).ending.refusal? = none
        ∧ Finishes act (p.add (act p a)) rest := by
  unfold Finishes
  rw [contributions, List.forall_mem_cons]

/-- Either no action refuses, or there is a first one that does. -/
theorem finishes_or_refusal (p : Progress) (actions : List Action) :
    Finishes act p actions
      ∨ ∃ before a after reason, actions = before ++ a :: after
        ∧ Finishes act p before
        ∧ (act (p.through act before) a).ending = .blocked reason := by
  induction actions generalizing p with
  | nil => exact Or.inl (finishes_nil act p)
  | cons a rest ih =>
      cases hend : (act p a).ending.refusal? with
      | some reason =>
          refine Or.inr ⟨[], a, rest, reason, rfl, finishes_nil act p, ?_⟩
          exact Ending.refusal?_eq_some_iff.mp hend
      | none =>
          rcases ih (p.add (act p a)) with hfin | href
          · exact Or.inl ((finishes_cons act).mpr ⟨hend, hfin⟩)
          · obtain ⟨before, b, after, reason, hsplit, hfin, hb⟩ := href
            refine Or.inr ⟨a :: before, b, after, reason, ?_, ?_, hb⟩
            · rw [hsplit, List.cons_append]
            · exact (finishes_cons act).mpr ⟨hend, hfin⟩

-- ===================================================== the run of actions

/-- An action that does not refuse is recorded, and the run goes on. -/
theorem runActions_cons_of_goes_on {p : Progress} {a : Action}
    (rest : List Action) (h : (act p a).ending.refusal? = none) :
    runActions act p (a :: rest)
      = (runActions act (p.add (act p a)) rest).record ((act p a).record a) := by
  unfold Contribution.record
  rw [runActions]
  cases hend : (act p a).ending with
  | done => rfl
  | failed fault => rfl
  | blocked reason => rw [hend] at h; cases h

/-- An action that refuses is recorded as a success and is the last one. -/
theorem runActions_cons_of_refusal {p : Progress} {a : Action}
    (rest : List Action) {reason : String}
    (h : (act p a).ending = .blocked reason) :
    runActions act p (a :: rest)
      = { progress := p.add (act p a)
          records := [{ kind := a.kind }]
          refusal := some reason } := by
  rw [runActions]
  simp only [h]

/-- Actions of which none refuses all run. -/
theorem runActions_of_finishes {p : Progress} {actions : List Action}
    (h : Finishes act p actions) :
    runActions act p actions
      = { progress := p.through act actions
          records := actionRecords act p actions
          refusal := none } := by
  induction actions generalizing p with
  | nil => rfl
  | cons a rest ih =>
      obtain ⟨hend, hrest⟩ := (finishes_cons act).mp h
      rw [runActions_cons_of_goes_on act rest hend, ih hrest]
      rfl

/-- Actions run up to the first one that refuses, which is recorded last and as
a success. -/
theorem runActions_of_refusal {p : Progress} {before : List Action}
    {a : Action} {reason : String} (after : List Action)
    (hfin : Finishes act p before)
    (href : (act (p.through act before) a).ending = .blocked reason) :
    runActions act p (before ++ a :: after)
      = { progress := p.through act (before ++ [a])
          records := actionRecords act p before ++ [{ kind := a.kind }]
          refusal := some reason } := by
  induction before generalizing p with
  | nil => exact runActions_cons_of_refusal act after href
  | cons b before ih =>
      obtain ⟨hend, hbefore⟩ := (finishes_cons act).mp hfin
      rw [List.cons_append, runActions_cons_of_goes_on act _ hend,
        ih hbefore href]
      rfl

end Actions

-- ======================================================= rules that all run

section Rules

variable (act : Rule → Progress → Action → Contribution)

/-- Where rules lead if all their actions run. -/
def Progress.throughRules (p : Progress) (rules : List Selected) : Progress :=
  rules.foldl (fun p s => p.through (act s.rule) s.rule.actions) p

/-- The records of rules whose actions all run. -/
def ruleRecords : Progress → List Selected → List RuleRecord
  | _, [] => []
  | p, s :: rest =>
      s.record (actionRecords (act s.rule) p s.rule.actions)
        :: ruleRecords (p.through (act s.rule) s.rule.actions) rest

/-- A rule that refuses ends the pass, and its record is all it adds. -/
theorem runRules_cons_of_refusal {p : Progress} {s : Selected}
    (rest : List Selected) {before after : List Action} {a : Action}
    {reason : String} (hsplit : s.rule.actions = before ++ a :: after)
    (hfin : Finishes (act s.rule) p before)
    (href : (act s.rule (p.through (act s.rule) before) a).ending
      = .blocked reason) :
    runRules act p (s :: rest)
      = { progress := p.through (act s.rule) (before ++ [a])
          summary := {
            rules := [s.record
              (actionRecords (act s.rule) p before ++ [{ kind := a.kind }])] }
          block := some ⟨reason, s.rule.id⟩ } := by
  rw [runRules, hsplit, runActions_of_refusal (act s.rule) after hfin href]

/-- A terminal rule that does not refuse ends the pass when it has run. -/
theorem runRules_cons_of_terminal {p : Progress} {s : Selected}
    (rest : List Selected)
    (hfin : Finishes (act s.rule) p s.rule.actions)
    (hterm : s.rule.terminal = true) :
    runRules act p (s :: rest)
      = { progress := p.through (act s.rule) s.rule.actions
          summary := {
            Summary.ofRule s.rule
              (s.record (actionRecords (act s.rule) p s.rule.actions)) with
            terminatedEarly := !rest.isEmpty } } := by
  rw [runRules, runActions_of_finishes (act s.rule) hfin]
  simp only [hterm, if_true]

/-- After any other rule the pass goes on from where the rule led. -/
theorem runRules_cons_of_goes_on {p : Progress} {s : Selected}
    (rest : List Selected)
    (hfin : Finishes (act s.rule) p s.rule.actions)
    (hterm : s.rule.terminal = false) :
    runRules act p (s :: rest)
      = { runRules act (p.through (act s.rule) s.rule.actions) rest with
          summary := (Summary.ofRule s.rule
              (s.record (actionRecords (act s.rule) p s.rule.actions))).append
            (runRules act (p.through (act s.rule) s.rule.actions)
              rest).summary } := by
  rw [runRules, runActions_of_finishes (act s.rule) hfin]
  simp only [hterm, Bool.false_eq_true, if_false]

-- =============================================================== summaries

/-- A rule that ran to its end asks for a block if it is labelled so. -/
theorem Summary.ofRule_shouldBlock (r : Rule) (record : RuleRecord) :
    (Summary.ofRule r record).shouldBlock = decide (r.result = .block) := by
  unfold Summary.ofRule
  cases r.result <;> rfl

theorem Summary.ofRule_blockReason (r : Rule) (record : RuleRecord) :
    (Summary.ofRule r record).blockReason
      = if r.result = .block then some (r.describedOr r.blockText) else none := by
  unfold Summary.ofRule
  cases r.result <;> rfl

theorem Summary.ofRule_warnings (r : Rule) (record : RuleRecord) :
    (Summary.ofRule r record).warnings
      = if r.result = .warn then [r.describedOr r.warningText] else [] := by
  unfold Summary.ofRule
  cases r.result <;> rfl

theorem Summary.ofRule_terminatedEarly (r : Rule) (record : RuleRecord) :
    (Summary.ofRule r record).terminatedEarly = false := by
  unfold Summary.ofRule
  cases r.result <;> rfl

theorem Summary.ofRule_rules (r : Rule) (record : RuleRecord) :
    (Summary.ofRule r record).rules = [record] := by
  unfold Summary.ofRule
  cases r.result <;> rfl

-- ============================================================= the course

/-- How a pass goes from `p`: the rules of `ended` ran to their end, then the
rule of `refused` raised a refusal if there is one, and those of `left` did not
run. -/
structure Course (p : Progress) (ended : List Selected)
    (refused : Option Selected) (left : List Selected) (run : PassRun) :
    Prop where
  /-- No action of a rule that ran to its end refuses. -/
  finishes : ∀ before s after, ended = before ++ s :: after →
    Finishes (act s.rule) (p.throughRules act before) s.rule.actions
  /-- Nothing runs after a terminal rule. -/
  last : ∀ before s after, ended = before ++ s :: after →
    s.rule.terminal = true → after = [] ∧ refused = none
  /-- Rules are left only by a refusal or after a terminal rule. -/
  stops : left ≠ [] → refused.isSome ∨ ∃ s ∈ ended, s.rule.terminal = true
  /-- Without a refusal exactly the rules that ran to their end are recorded,
  and there is no block. -/
  unblocked : refused = none →
    run.block = none ∧ run.progress = p.throughRules act ended
      ∧ run.summary.rules = ruleRecords act p ended
  /-- The rule that refused is recorded last. Its records stop at the action
  that refused, which is recorded without an error. -/
  blocked : ∀ s, refused = some s → ∃ before a after reason,
    s.rule.actions = before ++ a :: after
      ∧ Finishes (act s.rule) (p.throughRules act ended) before
      ∧ (act s.rule ((p.throughRules act ended).through (act s.rule) before)
          a).ending = .blocked reason
      ∧ run.block = some ⟨reason, s.rule.id⟩
      ∧ run.progress
          = (p.throughRules act ended).through (act s.rule) (before ++ [a])
      ∧ run.summary.rules = ruleRecords act p ended ++ [s.record
          (actionRecords (act s.rule) (p.throughRules act ended) before
            ++ [{ kind := a.kind, error := none }])]
  /-- A rule that is labelled to block does so by running to its end. -/
  shouldBlock : run.summary.shouldBlock = true
    ↔ ∃ s ∈ ended, s.rule.result = .block
  /-- The first such rule gives the reason. -/
  blockReason : run.summary.blockReason
    = (ended.find? (·.rule.result = .block)).map
        fun s => s.rule.describedOr s.rule.blockText
  /-- The rules that are labelled to warn do so in their order. -/
  warnings : run.summary.warnings
    = (ended.filter (·.rule.result = .warn)).map
        fun s => s.rule.describedOr s.rule.warningText
  /-- A pass ends early if a terminal rule ran to its end before others. -/
  early : run.summary.terminatedEarly = true
    ↔ (∃ s ∈ ended, s.rule.terminal = true) ∧ left ≠ []

/-- The course of no rules. -/
theorem Course.nil (p : Progress) : Course act p [] none [] { progress := p } where
  finishes := by
    intro before s after h
    cases before <;> cases h
  last := by
    intro before s after h
    cases before <;> cases h
  stops := fun h => absurd rfl h
  unblocked := fun _ => ⟨rfl, rfl, rfl⟩
  blocked := by
    intro s h
    cases h
  shouldBlock := by simp
  blockReason := rfl
  warnings := rfl
  early := by simp

/-- The course that a refusal of the first rule ends. -/
theorem Course.of_refusal {p : Progress} {s : Selected} (left : List Selected)
    {before after : List Action} {a : Action} {reason : String}
    (hsplit : s.rule.actions = before ++ a :: after)
    (hfin : Finishes (act s.rule) p before)
    (href : (act s.rule (p.through (act s.rule) before) a).ending
      = .blocked reason) :
    Course act p [] (some s) left (runRules act p (s :: left)) := by
  rw [runRules_cons_of_refusal act left hsplit hfin href]
  constructor
  case finishes =>
    intro b t c h
    cases b <;> cases h
  case last =>
    intro b t c h
    cases b <;> cases h
  case stops => exact fun _ => Or.inl rfl
  case unblocked =>
    intro h
    cases h
  case blocked =>
    intro t ht
    cases ht
    exact ⟨before, a, after, reason, hsplit, hfin, href, rfl, rfl, rfl⟩
  case shouldBlock => simp
  case blockReason => rfl
  case warnings => rfl
  case early => simp

/-- The course that a first rule ends because it is terminal. -/
theorem Course.of_terminal {p : Progress} {s : Selected} (left : List Selected)
    (hfin : Finishes (act s.rule) p s.rule.actions)
    (hterm : s.rule.terminal = true) :
    Course act p [s] none left (runRules act p (s :: left)) := by
  rw [runRules_cons_of_terminal act left hfin hterm]
  -- the only way to split a list of one rule
  have hsplit : ∀ {before after : List Selected} {t : Selected},
      [s] = before ++ t :: after → before = [] ∧ t = s ∧ after = [] := by
    intro before after t h
    cases before with
    | nil => cases h; exact ⟨rfl, rfl, rfl⟩
    | cons b before => cases before <;> cases h
  constructor
  case finishes =>
    intro b t c h
    obtain ⟨rfl, rfl, rfl⟩ := hsplit h
    exact hfin
  case last =>
    intro b t c h _
    exact ⟨(hsplit h).2.2, rfl⟩
  case stops => exact fun _ => Or.inr ⟨s, List.mem_singleton_self s, hterm⟩
  case unblocked =>
    refine fun _ => ⟨rfl, rfl, ?_⟩
    exact Summary.ofRule_rules _ _
  case blocked =>
    intro t ht
    cases ht
  case shouldBlock => simp [Summary.ofRule_shouldBlock]
  case blockReason =>
    by_cases h : s.rule.result = .block <;>
      simp [Summary.ofRule_blockReason, h]
  case warnings =>
    by_cases h : s.rule.result = .warn <;>
      simp [Summary.ofRule_warnings, h]
  case early => simp [hterm]

/-- A rule that runs to its end and is not terminal comes before a course that
starts where it led. -/
theorem Course.cons {p : Progress} {s : Selected} {ended left : List Selected}
    {refused : Option Selected} {run : PassRun}
    (hfin : Finishes (act s.rule) p s.rule.actions)
    (hterm : s.rule.terminal = false)
    (h : Course act (p.through (act s.rule) s.rule.actions) ended refused left
      run) :
    Course act p (s :: ended) refused left
      { run with
        summary := (Summary.ofRule s.rule
          (s.record (actionRecords (act s.rule) p s.rule.actions))).append
            run.summary } := by
  have hrules : ∀ later : List RuleRecord, run.summary.rules = later →
      ((Summary.ofRule s.rule
        (s.record (actionRecords (act s.rule) p s.rule.actions))).append
          run.summary).rules
        = s.record (actionRecords (act s.rule) p s.rule.actions) :: later := by
    intro later hlater
    rw [Summary.append, Summary.ofRule_rules, hlater]
    rfl
  constructor
  case finishes =>
    intro before t after hsplit
    cases before with
    | nil => cases hsplit; exact hfin
    | cons b before =>
        cases hsplit
        exact h.finishes before t after rfl
  case last =>
    intro before t after hsplit ht
    cases before with
    | nil =>
        cases hsplit
        rw [hterm] at ht
        cases ht
    | cons b before =>
        cases hsplit
        exact h.last before t after rfl ht
  case stops =>
    intro hleft
    rcases h.stops hleft with hr | ⟨t, ht, htt⟩
    · exact Or.inl hr
    · exact Or.inr ⟨t, List.mem_cons_of_mem s ht, htt⟩
  case unblocked =>
    intro hnone
    obtain ⟨hblock, hprogress, hrecords⟩ := h.unblocked hnone
    exact ⟨hblock, hprogress, hrules _ hrecords⟩
  case blocked =>
    intro t ht
    obtain ⟨before, a, after, reason, hsplit, hb, href, hblock, hprogress,
      hrecords⟩ := h.blocked t ht
    exact ⟨before, a, after, reason, hsplit, hb, href, hblock, hprogress,
      hrules _ hrecords⟩
  case shouldBlock =>
    simp [Summary.append, Summary.ofRule_shouldBlock, h.shouldBlock]
  case blockReason =>
    by_cases hs : s.rule.result = .block <;>
      simp [Summary.append, Summary.ofRule_blockReason, h.blockReason, hs]
  case warnings =>
    by_cases hs : s.rule.result = .warn <;>
      simp [Summary.append, Summary.ofRule_warnings, h.warnings, hs]
  case early =>
    simp [Summary.append, Summary.ofRule_terminatedEarly, h.early, hterm]

/-- Every pass has a course through the rules that were selected for it. -/
theorem runRules_course (p : Progress) (selected : List Selected) :
    ∃ ended refused left, selected = ended ++ refused.toList ++ left
      ∧ Course act p ended refused left (runRules act p selected) := by
  induction selected generalizing p with
  | nil => exact ⟨[], none, [], rfl, Course.nil act p⟩
  | cons s rest ih =>
      rcases finishes_or_refusal (act s.rule) p s.rule.actions with
        hfin | ⟨before, a, after, reason, hsplit, hfin, href⟩
      · cases hterm : s.rule.terminal with
        | true => exact ⟨[s], none, rest, rfl,
            Course.of_terminal act rest hfin hterm⟩
        | false =>
            obtain ⟨ended, refused, left, hsel, hcourse⟩ :=
              ih (p.through (act s.rule) s.rule.actions)
            refine ⟨s :: ended, refused, left, ?_, ?_⟩
            · rw [hsel, List.cons_append, List.cons_append]
            · rw [runRules_cons_of_goes_on act rest hfin hterm]
              exact Course.cons act hfin hterm hcourse
      · exact ⟨[], some s, rest, rfl,
          Course.of_refusal act rest hsplit hfin href⟩

end Rules

-- ============================================================= evaluations

/-- The outcome of an evaluation has the summary of its pass in exactly one
place: as the result, or with the block beside it. -/
theorem Engine.outcome_summary (e : Engine) (world : World) (rules : List Rule)
    (c : Context) (clock : Clock) :
    let run := e.runIn world c (c.view clock.running) {}
      (Selection.select (e.registry c) c.kind (c.view clock.matching) rules)
    let o := (e.evaluateRulesIn world rules c clock).outcome
    o.blocked = run.block
      ∧ (o.result = some run.summary ∧ o.blocked = none ∧ o.beforeBlock = none
        ∨ o.result = none ∧ o.blocked.isSome
          ∧ o.beforeBlock = some run.summary) := by
  intro run o
  refine ⟨rfl, ?_⟩
  have hresult : o.result
      = if run.block.isNone then some run.summary else none := rfl
  have hbefore : o.beforeBlock
      = if run.block.isSome then some run.summary else none := rfl
  have hblocked : o.blocked = run.block := rfl
  rw [hresult, hbefore, hblocked]
  cases run.block with
  | none => exact Or.inl ⟨rfl, rfl, rfl⟩
  | some b => exact Or.inr ⟨rfl, rfl, rfl⟩

end HookRules
