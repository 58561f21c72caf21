/-
What a refused event is told.

An outcome is blocked by an action or by the label of a rule. The reason is what
the action ended with, or the description of the first rule with the label
(`Engine.outcome_origin`), so whether it says something is asked of each of these
where it is made: an action in `Reason`, a rule in `describedOr`.

The answer is yes, except where a denial has a text and the values of the event
leave nothing but blanks of it. The reason of the outcome is blank exactly then
(`blank_reason_iff_lost_text`). What the values leave of a text is told by its
pieces and not by the reason: that a reason is blank is a conclusion in both
directions.
-/
import HookRules.Proofs.Contribution.Reasons
import HookRules.Proofs.Response.Refusal
import HookRules.Proofs.Selection.Order

namespace HookRules

-- =================================================================== origins

section Courses

variable {act : Rule → Progress → Action → Contribution} {p : Progress}
  {ended left : List Selected} {refused : Option Selected} {run : PassRun}

/-- A block is raised by an action of the rule that it names. -/
theorem Course.raised (h : Course act p ended refused left run) {b : Block}
    (hb : run.block = some b) :
    ∃ s, refused = some s ∧ b.ruleId = s.rule.id ∧ ∃ a ∈ s.rule.actions, ∃ q,
      (act s.rule q a).ending = .blocked b.reason := by
  cases refused with
  | none =>
      rw [(h.unblocked rfl).1] at hb
      cases hb
  | some s =>
      obtain ⟨before, a, after, reason, hsplit, -, href, hblock, -, -⟩ :=
        h.blocked s rfl
      cases hblock.symm.trans hb
      have ha : a ∈ s.rule.actions := by
        rw [hsplit]
        exact List.mem_append_right before (List.mem_cons_self ..)
      exact ⟨s, rfl, rfl, a, ha, _, href⟩

/-- The reason of a summary is told by a rule that is labelled to block. -/
theorem Course.labelled (h : Course act p ended refused left run)
    {reason : String} (hreason : run.summary.blockReason = some reason) :
    ∃ s ∈ ended, s.rule.result = .block
      ∧ s.rule.describedOr s.rule.blockText = reason := by
  rw [h.blockReason] at hreason
  obtain ⟨s, hfind, hdescribed⟩ := Option.map_eq_some_iff.mp hreason
  have hlabel := List.find?_some hfind
  exact ⟨s, List.mem_of_find?_eq_some hfind, of_decide_eq_true hlabel, hdescribed⟩

end Courses

/-- What is selected is a rule that matches. -/
theorem Selection.matched_of_select {registry : Registry} {k : EventKind}
    {view : Fields} {rules : List Rule} {s : Selected}
    (h : s ∈ select registry k view rules) :
    s.rule ∈ rules ∧ s.rule.verdict registry k view = .matched := by
  have hrule : s.rule ∈ (select registry k view rules).map (·.rule) :=
    List.mem_map_of_mem h
  rwa [select_sorted, (sortedBy_perm _ _).mem_iff, List.mem_filter,
    Verdict.isMatch_iff] at hrule

section Evaluations

variable (e : Engine) (world : World) (rules : List Rule) (c : Context)
  (clock : Clock)

@[simp] theorem Engine.occasion_view (s : Surroundings) (view : Fields)
    (r : Rule) : (e.occasion s c view r).view = view := rfl

/-- A rule matches the event of a context. -/
def Rule.Matches (r : Rule) : Prop :=
  r.verdict (e.registry c) c.kind (c.view clock.matching) = .matched

/-- The reason of a blocked outcome is the reason of an action that blocked it,
or what a rule with the label says of itself. -/
theorem Engine.outcome_origin
    (hblocked : (e.evaluateRulesIn world rules c clock).outcome.isBlocked
      = true) :
    let o := (e.evaluateRulesIn world rules c clock).outcome
    ∃ reason, o.blockReason = some reason
      ∧ ((∃ r ∈ rules, r.Matches e c clock
          ∧ o.blocked = some ⟨reason, r.id⟩ ∧ ∃ a ∈ r.actions, ∃ s,
            Reason (e.occasion s c (c.view clock.running) r) a reason)
        ∨ o.blocked = none ∧ ∃ r ∈ rules, r.Matches e c clock
          ∧ r.result = .block ∧ r.describedOr r.blockText = reason) := by
  intro o
  obtain ⟨reason, hreason⟩ :=
    (e.outcome_sound world rules c clock).reasoned hblocked
  refine ⟨reason, hreason, ?_⟩
  obtain ⟨ended, refused, left, hselected, hcourse⟩ :=
    runRules_course (e.act world c (c.view clock.running)) {}
      (Selection.select (e.registry c) c.kind (c.view clock.matching) rules)
  obtain ⟨hblock, hsummary⟩ := e.outcome_summary world rules c clock
  have hmatched : ∀ s ∈ ended ++ refused.toList ++ left, s.rule ∈ rules
      ∧ s.rule.Matches e c clock := by
    intro s hs
    rw [← hselected] at hs
    exact Selection.matched_of_select hs
  change o.blockReason = some reason at hreason
  unfold Outcome.blockReason at hreason
  cases hb : o.blocked with
  | some b =>
      rw [hb] at hreason
      cases hreason
      obtain ⟨s, rfl, hid, a, ha, q, hending⟩ :=
        hcourse.raised (hblock.symm.trans hb)
      obtain ⟨hs, hverdict⟩ := hmatched s (by simp)
      refine Or.inl ⟨s.rule, hs, hverdict, ?_, a, ha, world q.steps,
        reason_of_blocked hending⟩
      rw [← hid]
  | none =>
      rcases hsummary with ⟨hresult, -, -⟩ | ⟨-, hsome, -⟩
      · change o.result = _ at hresult
        rw [hb, hresult] at hreason
        obtain ⟨s, hs, hlabel, hdescribed⟩ := hcourse.labelled hreason
        obtain ⟨hrule, hverdict⟩ := hmatched s (by simp [hs])
        exact Or.inr ⟨rfl, s.rule, hrule, hverdict, hlabel, hdescribed⟩
      · change o.blocked.isSome = true at hsome
        rw [hb] at hsome
        cases hsome

/-- A blocked event is given a reason. The reason is blank just if the event was
blocked by a rule that has a denial with a text of its own, of which the values
of the event leave nothing but blanks, and the reason is that text filled. -/
theorem blank_reason_iff_lost_text
    (hblocked : (e.evaluateRulesIn world rules c clock).outcome.isBlocked
      = true) :
    let o := (e.evaluateRulesIn world rules c clock).outcome
    ∃ reason, o.blockReason = some reason
      ∧ ((∀ ch ∈ reason.toList, Text.isBlank ch = true)
        ↔ ∃ r ∈ rules, r.Matches e c clock
          ∧ o.blocked = some ⟨reason, r.id⟩
          ∧ ∃ a ∈ r.actions, ∃ text, a.LosesText (c.view clock.running) text
            ∧ Template.fill text (c.view clock.running) = reason) := by
  intro o
  obtain ⟨reason, hreason, horigin⟩ :=
    e.outcome_origin world rules c clock hblocked
  refine ⟨reason, hreason, ?_, ?_⟩
  · intro hblank
    have hempty : Text.isBlankText reason = true := List.all_eq_true.mpr hblank
    rcases horigin with ⟨r, hr, hverdict, hb, a, ha, s, hfrom⟩
      | ⟨-, r, -, -, -, rfl⟩
    · have hloses := loses_text_of_blank_reason hfrom hempty
      rw [Engine.occasion_view] at hloses
      exact ⟨r, hr, hverdict, hb, a, ha, hloses⟩
    · rw [r.describedOr_not_blank r.blockText_not_blank] at hempty
      cases hempty
  · rintro ⟨r, -, -, -, a, -, text, hloses, rfl⟩
    exact List.all_eq_true.mp hloses.blank

end Evaluations

/-- A description that is blank is no reason, and the rule is named instead. -/
theorem reason_of_blank_description :
    let e : Engine :=
      { host := ⟨.empty, none, "/"⟩
        runner := fun _ => .ok ⟨0, .exited 0, [], []⟩ }
    let c := Context.ofEvent "/" ⟨{ sessionId := "s" }, .stop false⟩
    let r : Rule := { id := "r", result := .block, description := some " " }
    let o := (e.evaluateRulesIn e.world [r] c "").outcome
    o.isBlocked = true
      ∧ ∃ reason, o.blockReason = some reason
        ∧ ¬ ∀ ch ∈ reason.toList, Text.isBlank ch = true := by
  intro e c r o
  have hblocked : o.isBlocked = true := by decide +kernel
  have hnone : o.blocked = none := by decide +kernel
  obtain ⟨reason, hreason, hiff⟩ :=
    blank_reason_iff_lost_text e e.world [r] c "" hblocked
  refine ⟨hblocked, reason, hreason, fun hblank => ?_⟩
  obtain ⟨_, -, -, hsome, -⟩ := hiff.mp hblank
  cases hnone.symm.trans hsome

/-- A denial whose text is a placeholder for a field that the tool input does not
have gives a reason without a character. -/
theorem missing_field_takes_the_reason_away :
    ¬ ∀ (e : Engine) (world : World) (rules : List Rule) (c : Context)
        (clock : Clock),
      (e.evaluateRulesIn world rules c clock).outcome.isBlocked = true →
      ∃ reason,
        (e.evaluateRulesIn world rules c clock).outcome.blockReason
          = some reason
        ∧ ∃ ch ∈ reason.toList, Text.isBlank ch = false := by
  intro hall
  let e : Engine :=
    { host := ⟨.empty, none, "/"⟩
      runner := fun _ => .ok ⟨0, .exited 0, [], []⟩ }
  let c := Context.ofEvent "/" ⟨{ sessionId := "s" },
    .preToolUse ⟨"Bash", .obj [("command", .str "ls")], none⟩⟩
  let denial : Action :=
    { kind := .deny, message := some "$\x7btool_input.why\x7d" }
  let r : Rule := { id := "no", actions := [denial] }
  have hempty :
      (e.evaluateRulesIn e.world [r] c "").outcome.blockReason = some "" := by
    decide +kernel
  obtain ⟨reason, hreason, ch, hch, -⟩ := hall e e.world [r] c "" (by decide +kernel)
  cases hempty.symm.trans hreason
  cases hch

end HookRules
