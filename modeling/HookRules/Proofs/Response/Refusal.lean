/-
A response refuses an event exactly when the event was blocked.

An accumulator by itself can hold a refusal without a block, or a block without
its reason. `Outcome.Sound` is what an evaluation leaves: nothing is refused on
the accumulator of an outcome that no action blocked, the last thing on any other
is the record of its block, and a rule that is labelled to block has given a
reason. Every evaluation is sound, because the channels of a pass are
(`Engine.runIn_closes`) and because its course is (`runRules_course`).

From there on one lemma for each form of response says how it comes out. A
response to a sound outcome either has the form that refuses its kind of event,
with the reason of the outcome (`Refusal`), or it refuses no kind of event
(`GoesOn`).
-/
import HookRules.Proofs.Pass.Course
import HookRules.Proofs.Pass.Writes
import HookRules.Proofs.Response.Wire
import HookRules.Response.Build

namespace HookRules

-- ========================================================== sound outcomes

/-- What an outcome has if it comes from an evaluation. -/
structure Outcome.Sound (o : Outcome) : Prop where
  /-- Rules block for a reason. -/
  reasoned : o.isBlocked = true → ∃ reason, o.blockReason = some reason
  /-- What is refused is what an action blocked. -/
  closes : o.accumulator.Closes o.kind o.blocked

/-- Rules that are labelled to block leave a reason. -/
theorem Course.reason_of_shouldBlock
    {act : Rule → Progress → Action → Contribution} {p : Progress}
    {ended left : List Selected} {refused : Option Selected} {run : PassRun}
    (h : Course act p ended refused left run)
    (hblock : run.summary.shouldBlock = true) :
    ∃ reason, run.summary.blockReason = some reason := by
  obtain ⟨s, hs, hlabel⟩ := h.shouldBlock.mp hblock
  rw [h.blockReason]
  cases hfind : ended.find? (·.rule.result = .block) with
  | some t => exact ⟨_, rfl⟩
  | none =>
      have hnone := List.find?_eq_none.mp hfind s hs
      exact absurd (decide_eq_true hlabel) hnone

/-- Every evaluation comes to a sound outcome. -/
theorem Engine.outcome_sound (e : Engine) (world : World) (rules : List Rule)
    (c : Context) (clock : Clock) :
    (e.evaluateRulesIn world rules c clock).outcome.Sound := by
  have hcloses := e.runIn_closes world c (c.view clock.running)
    (Selection.select (e.registry c) c.kind (c.view clock.matching) rules)
  obtain ⟨-, hsummary⟩ := e.outcome_summary world rules c clock
  refine ⟨?_, hcloses⟩
  intro hblocked
  rcases hsummary with ⟨hresult, hnone, -⟩ | ⟨-, hsome, -⟩
  · obtain ⟨ended, refused, left, -, hcourse⟩ :=
      runRules_course (e.act world c (c.view clock.running)) {}
        (Selection.select (e.registry c) c.kind (c.view clock.matching) rules)
    have hblock : (e.runIn world c (c.view clock.running) {} (Selection.select
        (e.registry c) c.kind (c.view clock.matching)
        rules)).summary.shouldBlock = true := by
      unfold Outcome.isBlocked at hblocked
      rw [hnone, hresult] at hblocked
      exact hblocked
    unfold Outcome.blockReason
    rw [hnone, hresult]
    exact hcourse.reason_of_shouldBlock hblock
  · obtain ⟨b, hb⟩ := Option.isSome_iff_exists.mp hsome
    unfold Outcome.blockReason
    rw [hb]
    exact ⟨b.reason, rfl⟩

namespace Outcome

/-- An outcome that is not blocked refuses nothing. -/
theorem refusal_of_not_blocked {o : Outcome} (h : o.isBlocked = false) :
    o.refusal = none := by
  unfold refusal
  rw [h]
  rfl

/-- The reason of a refusal is never made up. -/
theorem refusal_of_reason {o : Outcome} {reason : String}
    (h : o.isBlocked = true) (hreason : o.blockReason = some reason) :
    o.refusal = some reason := by
  unfold refusal
  rw [h, hreason]
  rfl

/-- No action blocked an outcome that is not blocked. -/
theorem blocked_of_not_isBlocked {o : Outcome} (h : o.isBlocked = false) :
    o.blocked = none := by
  unfold isBlocked at h
  rw [Bool.or_eq_false_iff, Option.isSome_eq_false_iff] at h
  exact Option.isNone_iff_eq_none.mp h.1

/-- A block by an action gives the reason of the outcome. -/
theorem reason_of_blocked {o : Outcome} {reason : String} {b : Block}
    (hb : o.blocked = some b) (hreason : o.blockReason = some reason) :
    b.reason = reason := by
  unfold blockReason at hreason
  rw [hb] at hreason
  exact Option.some.inj hreason

end Outcome

-- ======================================================== forms of responses

namespace Response

/-- A response that refuses an event of a kind and gives a reason. -/
structure Refusal (k : EventKind) (reason : String) (r : Response) : Prop where
  refuses : k.RefusedBy r.toJson
  reasoned : r.toJson.at? k.refusalForm.reason = some (.str reason)
  bare : r.toJson.mentions "updatedInput" = false

/-- A response that refuses no event. -/
structure GoesOn (r : Response) : Prop where
  decision : r.decision = none
  goesOn : r.goesOn = none
  permission : ∀ s d, r.specific = some s → s.permission? = some d → d = .allow
  request : ∀ s d, r.specific = some s → s.request? = some d →
    d.behavior = .allow

variable {k : EventKind} {reason : String} {r : Response}

/-- A tool call is refused by a permission to deny with its reason, and without
a changed input beside it. -/
theorem Refusal.toolUse
    (h : r.specific = some (.preToolUse (some .deny) (some reason) none)) :
    Refusal .preToolUse reason r where
  refuses := by
    show r.toJson.at? ["hookSpecificOutput", "permissionDecision"] = _
    rw [at?_permission, h]
    rfl
  reasoned := by
    show r.toJson.at? ["hookSpecificOutput", "permissionDecisionReason"] = _
    rw [at?_permissionReason, h]
    rfl
  bare := by
    refine mentions_updatedInput fun s hs => ?_
    rw [h] at hs
    cases hs
    rfl

/-- A request is refused by its nested decision, which may interrupt or not. -/
theorem Refusal.request {interrupt : Bool}
    (h : r.specific
      = some (.permissionRequest (.denied reason interrupt))) :
    Refusal .permissionRequest reason r where
  refuses := by
    show r.toJson.at? ["hookSpecificOutput", "decision", "behavior"] = _
    rw [at?_behavior, h]
    rfl
  reasoned := by
    show r.toJson.at? ["hookSpecificOutput", "decision", "message"] = _
    rw [at?_message, h]
    rfl
  bare := by
    refine mentions_updatedInput fun s hs => ?_
    rw [h] at hs
    cases hs
    rfl

/-- A block refuses the events whose refusals stand in the decision. -/
theorem Refusal.block {part : Option SpecificOutput} {message : Option String}
    (hform : k.refusalForm = ⟨["decision"], .str "block", ["reason"]⟩)
    (hbare : ∀ s, part = some s → s.updatedInput? = none) :
    Refusal k reason
      { block reason with specific := part, systemMessage := message } where
  refuses := by
    unfold EventKind.RefusedBy
    rw [hform, at?_decision]
    rfl
  reasoned := by
    rw [hform, at?_reason]
    rfl
  bare := mentions_updatedInput hbare

/-- A stop refuses the events that cannot be blocked. -/
theorem Refusal.stop {part : Option SpecificOutput} {message : Option String}
    (hform : k.refusalForm = ⟨["continue"], .bool false, ["stopReason"]⟩)
    (hbare : ∀ s, part = some s → s.updatedInput? = none) :
    Refusal k reason
      { stop reason with specific := part, systemMessage := message } where
  refuses := by
    unfold EventKind.RefusedBy
    rw [hform, at?_goesOn]
    rfl
  reasoned := by
    rw [hform, at?_stopReason]
    rfl
  bare := mentions_updatedInput hbare

/-- The only permission in a response that goes on is to allow. -/
theorem GoesOn.permission_allow (h : GoesOn r) {v : Json}
    (hv : r.toJson.at? ["hookSpecificOutput", "permissionDecision"] = some v) :
    v = .str "allow" := by
  rw [at?_permission] at hv
  obtain ⟨d, hd, rfl⟩ := Option.map_eq_some_iff.mp hv
  obtain ⟨s, hs, hsd⟩ := Option.bind_eq_some_iff.mp hd
  rw [h.permission s d hs hsd]
  rfl

/-- The only answer to a request in a response that goes on is to allow. -/
theorem GoesOn.behavior_allow (h : GoesOn r) {v : Json}
    (hv : r.toJson.at? ["hookSpecificOutput", "decision", "behavior"]
      = some v) :
    v = .str "allow" := by
  rw [at?_behavior] at hv
  obtain ⟨d, hd, rfl⟩ := Option.map_eq_some_iff.mp hv
  obtain ⟨s, hs, hsd⟩ := Option.bind_eq_some_iff.mp hd
  rw [h.request s d hs hsd]
  rfl

/-- A response that goes on refuses events of no kind. -/
theorem GoesOn.not_refusedBy (h : GoesOn r) (k : EventKind) :
    ¬ k.RefusedBy r.toJson := by
  have hblock : r.toJson.at? ["decision"] ≠ some (.str "block") := by
    rw [at?_decision, h.decision]
    nofun
  have hstop : r.toJson.at? ["continue"] ≠ some (.bool false) := by
    rw [at?_goesOn, h.goesOn]
    nofun
  have hallow : (Json.str "deny") ≠ .str "allow" := by
    intro heq
    exact absurd (Json.str.inj heq) (by decide)
  cases k with
  | preToolUse => exact fun hdeny => hallow (h.permission_allow hdeny)
  | permissionRequest => exact fun hdeny => hallow (h.behavior_allow hdeny)
  | userPromptSubmit => exact hblock
  | postToolUse => exact hblock
  | stop => exact hblock
  | subagentStop => exact hblock
  | sessionStart => exact hstop
  | sessionEnd => exact hstop
  | preCompact => exact hstop
  | notification => exact hstop

end Response

-- ================================================== responses to tool events

namespace Outcome.Sound

variable {o : Outcome} {reason : String}

/-- A denied tool call has the reason of the outcome. -/
theorem permissionReason_of_deny (h : o.Sound) (hk : o.kind = .preToolUse)
    (hreason : o.blockReason = some reason)
    (hdeny : o.accumulator.permissionDecision = some .deny) :
    o.accumulator.permissionReason = some reason := by
  obtain ⟨b, hb⟩ := h.closes.block_of_denies (Or.inl hdeny)
  rw [← reason_of_blocked hb hreason]
  exact ((hk ▸ h.closes).permission hb).2

/-- A denied request has the reason of the outcome and no input. -/
theorem request_of_deny (h : o.Sound) (hk : o.kind = .permissionRequest)
    (hreason : o.blockReason = some reason) {d : RequestDecision}
    (hd : o.accumulator.requestDecision = some d) (hdeny : d.behavior = .deny) :
    ∃ interrupt, d = .denied reason interrupt := by
  obtain ⟨b, hb⟩ := h.closes.block_of_denies (Or.inr ⟨d, hd, hdeny⟩)
  obtain ⟨interrupt, hrequest⟩ := (hk ▸ h.closes).request hb
  rw [hd, reason_of_blocked hb hreason] at hrequest
  exact ⟨interrupt, Option.some.inj hrequest⟩

/-- The response to a blocked tool call. A rule that blocks by its label leaves
nothing on the channel, and is heard all the same. -/
theorem ofToolUse_refusal (h : o.Sound) (hk : o.kind = .preToolUse)
    (hb : o.isBlocked = true) (hreason : o.blockReason = some reason)
    (e : Event) :
    (Response.ofToolUse o e).specific
      = some (.preToolUse (some .deny) (some reason) none) := by
  unfold Response.ofToolUse
  simp only [refusal_of_reason hb hreason]
  by_cases hdeny : o.accumulator.permissionDecision = some .deny
  · rw [if_pos hdeny, h.permissionReason_of_deny hk hreason hdeny]
    rfl
  · rw [if_neg hdeny]
    rfl

/-- The response to a blocked request. The interruption is that of the refusal,
if an action refused, and none if a label did. -/
theorem ofRequest_refusal (h : o.Sound) (hk : o.kind = .permissionRequest)
    (hb : o.isBlocked = true) (hreason : o.blockReason = some reason)
    (e : Event) :
    ∃ interrupt, (Response.ofRequest o e).specific
      = some (.permissionRequest (.denied reason interrupt)) := by
  unfold Response.ofRequest
  simp only [refusal_of_reason hb hreason]
  unfold Response.refusedRequest
  cases hd : o.accumulator.requestDecision with
  | none => exact ⟨false, rfl⟩
  | some d =>
      by_cases hdeny : d.behavior = .deny
      · obtain ⟨interrupt, hdenied⟩ := h.request_of_deny hk hreason hd hdeny
        refine ⟨interrupt, ?_⟩
        dsimp only
        rw [if_pos hdeny, hdenied]
        rfl
      · refine ⟨false, ?_⟩
        dsimp only
        rw [if_neg hdeny]
        rfl

/-- A tool call that is not blocked is not denied: the channel could hold a
denial only together with a block. -/
theorem ofToolUse_goesOn (h : o.Sound) (hb : o.isBlocked = false) (e : Event) :
    (Response.ofToolUse o e).GoesOn := by
  have hmild := h.closes.mild (blocked_of_not_isBlocked hb)
  unfold Response.ofToolUse
  simp only [refusal_of_not_blocked hb]
  split
  · exact ⟨rfl, rfl, nofun, nofun⟩
  · refine ⟨rfl, rfl, ?_, ?_⟩
    · intro s d hs hd
      cases hs
      rcases hmild.permission with hnone | ⟨-, hallow⟩
      · rw [SpecificOutput.permission?, hnone] at hd
        cases hd
      · rw [SpecificOutput.permission?, hallow] at hd
        cases hd
        rfl
    · intro s d hs hd
      cases hs
      cases hd

/-- The same for a request. -/
theorem ofRequest_goesOn (h : o.Sound) (hb : o.isBlocked = false) (e : Event) :
    (Response.ofRequest o e).GoesOn := by
  have hmild := h.closes.mild (blocked_of_not_isBlocked hb)
  have hallow : ∀ d, Response.answeredRequest o.accumulator.requestDecision
      (o.effectiveInput e) = some d → d.behavior = .allow := by
    intro d hd
    rcases hmild.request with hnone | ⟨-, hallowed⟩
    · rw [hnone] at hd
      obtain ⟨fields, -, rfl⟩ := Option.map_eq_some_iff.mp hd
      rfl
    · rw [hallowed] at hd
      cases hd
      rfl
  unfold Response.ofRequest
  simp only [refusal_of_not_blocked hb]
  split
  · next d hd =>
      refine ⟨rfl, rfl, ?_, ?_⟩
      · intro s d' hs hd'
        cases hs
        cases hd'
      · intro s d' hs hd'
        cases hs
        cases hd'
        exact hallow d hd
  · exact ⟨rfl, rfl, nofun, nofun⟩

end Outcome.Sound

-- =============================================== responses to other events

namespace Response

/-- What answers an event that may be given context, without the context. -/
def withoutContext (o : Outcome) : Response :=
  match o.refusal with
  | some reason => if o.kind = .sessionStart then stop reason else block reason
  | none => {}

/-- A response without context refuses in the form of its event, to stop the
session or to block. -/
theorem withoutContext_refusal {o : Outcome} {reason : String}
    (h : o.refusal = some reason) :
    withoutContext o
      = if o.kind = .sessionStart then stop reason else block reason := by
  unfold withoutContext
  rw [h]

/-- Without a refusal it is empty. -/
theorem withoutContext_goesOn {o : Outcome} (h : o.refusal = none) :
    withoutContext o = {} := by
  unfold withoutContext
  rw [h]

/-- Context is all that the specific part of such a response may hold, and it
changes nothing else. -/
theorem ofContext_eq (o : Outcome) :
    ∃ part, ofContext o = { withoutContext o with specific := part }
      ∧ ∀ s, part = some s → ∃ context, s = contextPart o.kind context := by
  have hnone : withoutContext o = { withoutContext o with specific := none } := by
    unfold withoutContext
    cases o.refusal with
    | none => rfl
    | some reason => dsimp only; split <;> rfl
  have heq : ofContext o
      = if o.accumulator.additionalContext.isSome
          && !((withoutContext o).decision.isSome
            && o.kind == .userPromptSubmit) then
        { withoutContext o with
          specific := some
            (contextPart o.kind o.accumulator.additionalContext) }
      else withoutContext o := rfl
  rw [heq]
  split
  · refine ⟨_, rfl, ?_⟩
    intro s hs
    cases hs
    exact ⟨_, rfl⟩
  · exact ⟨none, hnone, nofun⟩

/-- Context is no changed input and decides nothing. -/
theorem contextPart_bare (k : EventKind) (context : Option String) :
    (contextPart k context).updatedInput? = none
      ∧ (contextPart k context).permission? = none
      ∧ (contextPart k context).request? = none := by
  cases k <;> exact ⟨rfl, rfl, rfl⟩

-- ============================================================ all responses

/-- The specific part names the kind of event that was answered. -/
theorem ofToolUse_answers {o : Outcome} {e : Event} {s : SpecificOutput}
    (h : (ofToolUse o e).specific = some s) : s.kind = .preToolUse := by
  unfold ofToolUse at h
  dsimp only at h
  split at h
  · cases h
    rfl
  · split at h
    · cases h
    · cases h
      rfl

/-- So it does for a request. -/
theorem ofRequest_answers {o : Outcome} {e : Event} {s : SpecificOutput}
    (h : (ofRequest o e).specific = some s) : s.kind = .permissionRequest := by
  unfold ofRequest at h
  dsimp only at h
  split at h
  · cases h
    rfl
  · cases h

/-- The specific part of a response answers the kind of event of its outcome,
whatever the accumulator holds. -/
theorem ofOutcome_answers {o : Outcome} {e : Event} {s : SpecificOutput}
    (h : (ofOutcome o e).specific = some s) : s.kind = o.kind := by
  obtain ⟨part, hcontext, hpart⟩ := ofContext_eq o
  have hnone : ∀ {f : String → Response},
      (∀ reason, (f reason).specific = none) →
        ((o.refusal.map f).getD {}).specific ≠ some s := by
    intro f hf hs
    cases hr : o.refusal with
    | none => rw [hr] at hs; cases hs
    | some reason =>
        rw [hr, Option.map_some, Option.getD_some, hf] at hs
        cases hs
  change (unspoken o e).specific = some s at h
  unfold unspoken at h
  rw [hcontext] at h
  cases hk : o.kind with
  | preToolUse =>
      rw [hk] at h
      exact ofToolUse_answers h
  | permissionRequest =>
      rw [hk] at h
      exact ofRequest_answers h
  | userPromptSubmit =>
      rw [hk] at h hpart
      obtain ⟨context, rfl⟩ := hpart s h
      rfl
  | sessionStart =>
      rw [hk] at h hpart
      obtain ⟨context, rfl⟩ := hpart s h
      rfl
  | postToolUse =>
      rw [hk] at h hpart
      obtain ⟨context, rfl⟩ := hpart s h
      rfl
  | stop => rw [hk] at h; exact absurd h (hnone fun _ => rfl)
  | subagentStop => rw [hk] at h; exact absurd h (hnone fun _ => rfl)
  | sessionEnd => rw [hk] at h; exact absurd h (hnone fun _ => rfl)
  | preCompact => rw [hk] at h; exact absurd h (hnone fun _ => rfl)
  | notification => rw [hk] at h; exact absurd h (hnone fun _ => rfl)

/-- The response to a blocked outcome refuses the kind of event with the reason
of the outcome. -/
theorem ofOutcome_refusal {o : Outcome} {reason : String} (h : o.Sound)
    (hb : o.isBlocked = true) (hreason : o.blockReason = some reason)
    (e : Event) : Refusal o.kind reason (ofOutcome o e) := by
  have hr := Outcome.refusal_of_reason hb hreason
  have hbase := withoutContext_refusal hr
  obtain ⟨part, hcontext, hpart⟩ := ofContext_eq o
  have hbare : ∀ s, part = some s → s.updatedInput? = none := by
    intro s hs
    obtain ⟨context, rfl⟩ := hpart s hs
    exact (contextPart_bare o.kind context).1
  rw [hbase] at hcontext
  unfold ofOutcome unspoken
  cases hk : o.kind with
  | preToolUse => exact .toolUse (h.ofToolUse_refusal hk hb hreason e)
  | permissionRequest =>
      obtain ⟨interrupt, hd⟩ := h.ofRequest_refusal hk hb hreason e
      exact .request hd
  | userPromptSubmit => rw [hcontext, hk]; exact .block rfl hbare
  | sessionStart => rw [hcontext, hk]; exact .stop rfl hbare
  | postToolUse => rw [hcontext, hk]; exact .block rfl hbare
  | stop => rw [hr]; exact .block rfl nofun
  | subagentStop => rw [hr]; exact .block rfl nofun
  | sessionEnd => rw [hr]; exact .stop rfl nofun
  | preCompact => rw [hr]; exact .stop rfl nofun
  | notification => rw [hr]; exact .stop rfl nofun

/-- The response to any other outcome refuses nothing. -/
theorem ofOutcome_goesOn {o : Outcome} (h : o.Sound) (hb : o.isBlocked = false)
    (e : Event) : GoesOn (ofOutcome o e) := by
  have hr := Outcome.refusal_of_not_blocked hb
  obtain ⟨part, hcontext, hpart⟩ := ofContext_eq o
  have hgoesOn : GoesOn (ofContext o) := by
    rw [hcontext, withoutContext_goesOn hr]
    refine ⟨rfl, rfl, ?_, ?_⟩
    · intro s d hs hd
      obtain ⟨context, rfl⟩ := hpart s hs
      rw [(contextPart_bare o.kind context).2.1] at hd
      cases hd
    · intro s d hs hd
      obtain ⟨context, rfl⟩ := hpart s hs
      rw [(contextPart_bare o.kind context).2.2] at hd
      cases hd
  have hempty : GoesOn {} := ⟨rfl, rfl, nofun, nofun⟩
  -- the message says nothing about refusals
  suffices key : GoesOn (unspoken o e) from
    ⟨key.decision, key.goesOn, key.permission, key.request⟩
  unfold unspoken
  cases hk : o.kind with
  | preToolUse => exact h.ofToolUse_goesOn hb e
  | permissionRequest => exact h.ofRequest_goesOn hb e
  | userPromptSubmit => exact hgoesOn
  | sessionStart => exact hgoesOn
  | postToolUse => exact hgoesOn
  | stop => rw [hr]; exact hempty
  | subagentStop => rw [hr]; exact hempty
  | sessionEnd => rw [hr]; exact hempty
  | preCompact => rw [hr]; exact hempty
  | notification => rw [hr]; exact hempty

end Response

/-- The response to an evaluated event refuses the event, in the form that its
kind has for that, exactly when the outcome is blocked. A refusal then has the
reason of the outcome and changes no input; any other response refuses no kind
of event, and all that it can decide is to allow. The specific part names the
kind of the event. -/
theorem response_refuses_iff_blocked (e : Engine) (world : World) (c : Context)
    (clock : Clock) (event : Event) :
    let o := (e.evaluateIn world c clock).outcome
    let v := (Response.ofOutcome o event).toJson
    (c.kind.RefusedBy v ↔ o.isBlocked = true)
      ∧ (o.isBlocked = true →
        (∃ reason, o.blockReason = some reason
          ∧ v.at? c.kind.refusalForm.reason = some (.str reason))
        ∧ v.mentions "updatedInput" = false)
      ∧ (o.isBlocked = false →
        (∀ k : EventKind, ¬ k.RefusedBy v)
          ∧ (∀ d, v.at? ["hookSpecificOutput", "permissionDecision"] = some d →
            d = .str "allow")
          ∧ ∀ d, v.at? ["hookSpecificOutput", "decision", "behavior"] = some d →
            d = .str "allow")
      ∧ ∀ part, v.get? "hookSpecificOutput" = some part →
        part.get? "hookEventName" = some (.str c.kind.wireName) := by
  intro o v
  have hsound : o.Sound := e.outcome_sound world e.rules c clock
  have hgoesOn := fun hb => Response.ofOutcome_goesOn hsound hb event
  have hrefusal : o.isBlocked = true → ∃ reason, o.blockReason = some reason
      ∧ Response.Refusal c.kind reason (Response.ofOutcome o event) := by
    intro hb
    obtain ⟨reason, hreason⟩ := hsound.reasoned hb
    exact ⟨reason, hreason, Response.ofOutcome_refusal hsound hb hreason event⟩
  refine ⟨⟨?_, ?_⟩, ?_, ?_, ?_⟩
  · intro hrefused
    cases hb : o.isBlocked with
    | true => rfl
    | false => exact absurd hrefused ((hgoesOn hb).not_refusedBy c.kind)
  · intro hb
    obtain ⟨reason, -, h⟩ := hrefusal hb
    exact h.refuses
  · intro hb
    obtain ⟨reason, hreason, h⟩ := hrefusal hb
    exact ⟨⟨reason, hreason, h.reasoned⟩, h.bare⟩
  · intro hb
    have h := hgoesOn hb
    exact ⟨h.not_refusedBy, fun d => h.permission_allow,
      fun d => h.behavior_allow⟩
  · intro part hpart
    rw [Response.get?_specific] at hpart
    obtain ⟨s, hs, rfl⟩ := Option.map_eq_some_iff.mp hpart
    rw [s.get?_kind, Response.ofOutcome_answers hs]
    rfl

end HookRules
