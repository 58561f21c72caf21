/-
Reading a response back from the object that it is written as.

Writing leaves out every field without a value, and reading takes a field that
is left out for one without a value. So each record is read back field by field
(`Fields.Ascending.optional?_written`), with one exception: the decision about a
permission request leaves out `interrupt` if it is false, and is read only if
`interrupt` is there (`RequestDecision.read?_toJson`).

# What is lost

A response is read back unless it answers a permission request without
interrupting, and then it is not read at all (`Response.ofJson?_toJson`). Among
the outcomes these are the ones of permission requests that are answered by
anything but a decision that interrupts (`Response.ofOutcome_withoutInterrupt`).
-/
import HookRules.Proofs.Json.Record
import HookRules.Proofs.Response.Refusal
import Mathlib

namespace HookRules

open Fields (Ascending optional? required?)

-- ================================================ decisions about permissions

namespace RequestDecision

/-- A decision about a permission request is read back if it interrupts, and is
not read if it does not. -/
theorem read?_toJson (d : RequestDecision) {name? : Json → Option String}
    (hname : ∀ s, name? (.str s) = some s) :
    read? name? d.toJson = if d.interrupt then some d else none := by
  obtain ⟨fs, hobj, hasc⟩ : ∃ fs, d.toJson = .obj fs ∧ Ascending fs :=
    Json.ofFields_eq_obj _
  have hbehavior := d.get?_behavior
  have hmessage := d.get?_message
  have hinput := d.get?_updatedInput
  have hinterrupt := d.get?_interrupt
  rw [hobj] at hbehavior hmessage hinput hinterrupt ⊢
  show (required? fs "behavior" _).bind _ = _
  rw [hasc.required?_eq, hbehavior, Option.bind_some, hname, Option.bind_some,
    Behavior.ofName?_name, Option.bind_some,
    hasc.optional?_written hmessage (fun _ => rfl) fun _ => rfl,
    hasc.optional?_written hinput (fun _ => rfl) fun _ => rfl,
    hasc.required?_eq, hinterrupt]
  obtain ⟨behavior, message, input, interrupt⟩ := d
  cases interrupt with
  | true => rfl
  | false => rfl

end RequestDecision

-- ========================================================== the specific part

namespace SpecificOutput

/-- The context of an answer that consists of it. -/
def context? : SpecificOutput → Option String
  | userPromptSubmit context => context
  | sessionStart context => context
  | postToolUse context => context
  | _ => none

/-- An answer to a permission request that does not interrupt. -/
def withoutInterrupt (s : SpecificOutput) : Bool :=
  s.request?.any (!·.interrupt)

theorem get?_context (s : SpecificOutput) :
    s.toJson.get? "additionalContext" = s.context?.map .str := by
  cases s <;> simp [toJson, fields, kindField, context?]

theorem get?_updatedInput (decision : Option PermissionDecision)
    (reason : Option String) (input : Option Fields) :
    (preToolUse decision reason input).toJson.get? "updatedInput"
      = input.map .obj := by
  simp [toJson, fields, kindField]

/-- What is written is read as an answer to the kind of event that it names. -/
theorem ofJson?_of_obj {s : SpecificOutput} {fs : Fields}
    (hobj : s.toJson = .obj fs) (hasc : Ascending fs) :
    ofJson? s.toJson = ofFields? fs s.kind := by
  have hkind := s.get?_kind
  rw [hobj] at hkind ⊢
  show (required? fs "hookEventName" _).bind _ = _
  rw [hasc.required?_eq, hkind]
  show (EventKind.ofWireName? s.kind.wireName).bind _ = _
  rw [EventKind.ofWireName?_wireName, Option.bind_some]

/-- Context is read back. -/
theorem optional?_context {s : SpecificOutput} {fs : Fields}
    (hobj : s.toJson = .obj fs) (hasc : Ascending fs) :
    optional? fs "additionalContext" Json.str? = some s.context? := by
  have hcontext := s.get?_context
  rw [hobj] at hcontext
  exact hasc.optional?_written hcontext (fun _ => rfl) fun _ => rfl

/-- A specific part is read back unless it is a decision that does not
interrupt, and then it is not read. -/
theorem ofJson?_toJson (s : SpecificOutput) :
    ofJson? s.toJson = if s.withoutInterrupt then none else some s := by
  obtain ⟨fs, hobj, hasc⟩ : ∃ fs, s.toJson = .obj fs ∧ Ascending fs :=
    Json.ofFields_eq_obj _
  rw [ofJson?_of_obj hobj hasc]
  cases s with
  | preToolUse decision reason input =>
      have hdecision := get?_permission (preToolUse decision reason input)
      have hreason := get?_permissionReason (preToolUse decision reason input)
      have hinput := get?_updatedInput decision reason input
      rw [hobj] at hdecision hreason hinput
      show (optional? fs "permissionDecision" _).bind _ = _
      rw [hasc.optional?_written hdecision (fun _ => rfl)
        PermissionDecision.ofName?_name, Option.bind_some]
      show (optional? fs "permissionDecisionReason" _).bind _ = _
      rw [hasc.optional?_written hreason (fun _ => rfl) fun _ => rfl,
        Option.bind_some]
      show (optional? fs "updatedInput" _).bind _ = _
      rw [hasc.optional?_written hinput (fun _ => rfl) fun _ => rfl]
      rfl
  | permissionRequest decision =>
      have hdecision := get?_decision (permissionRequest decision)
      rw [hobj] at hdecision
      show (required? fs "decision" _).map _ = _
      rw [hasc.required?_eq, hdecision]
      show (RequestDecision.read? _ decision.toJson).map _
        = if !decision.interrupt then none
          else some (permissionRequest decision)
      rw [decision.read?_toJson fun _ => rfl]
      cases decision.interrupt with
      | true => rfl
      | false => rfl
  | userPromptSubmit context =>
      show (optional? fs "additionalContext" _).map _ = _
      rw [optional?_context hobj hasc]
      rfl
  | sessionStart context =>
      show (optional? fs "additionalContext" _).map _ = _
      rw [optional?_context hobj hasc]
      rfl
  | postToolUse context =>
      show (optional? fs "additionalContext" _).map _ = _
      rw [optional?_context hobj hasc]
      rfl

end SpecificOutput

-- ============================================================= whole responses

namespace Response

/-- A response that answers a permission request without interrupting. -/
def withoutInterrupt (r : Response) : Bool :=
  r.specific.any (·.withoutInterrupt)

/-- The texts and the flag of a written response are read back. -/
theorem ofJson?_eq_map_specific (r : Response) :
    ofJson? r.toJson
      = (r.specific.elim (some none)
          fun s => (SpecificOutput.ofJson? s.toJson).map some).map
          fun specific => { r with specific } := by
  obtain ⟨fs, hobj, hasc⟩ : ∃ fs, r.toJson = .obj fs ∧ Ascending fs :=
    Json.ofFields_eq_obj _
  have hspecific := r.get?_specific
  have hdecision : r.toJson.get? "decision" = r.decision.map .str := by
    simp [toJson]
  have hreason : r.toJson.get? "reason" = r.reason.map .str := by
    simp [toJson]
  have hgoesOn : r.toJson.get? "continue" = r.goesOn.map .bool := by
    simp [toJson]
  have hstop : r.toJson.get? "stopReason" = r.stopReason.map .str := by
    simp [toJson]
  have hmessage : r.toJson.get? "systemMessage" = r.systemMessage.map .str := by
    simp [toJson]
  rw [hobj] at hspecific hdecision hreason hgoesOn hstop hmessage ⊢
  show (optional? fs "hookSpecificOutput" _).bind _ = _
  rw [hasc.optional?_eq _ hspecific fun _ => rfl,
    hasc.optional?_written hdecision (fun _ => rfl) fun _ => rfl,
    hasc.optional?_written hreason (fun _ => rfl) fun _ => rfl,
    hasc.optional?_written hgoesOn (fun _ => rfl) fun _ => rfl,
    hasc.optional?_written hstop (fun _ => rfl) fun _ => rfl,
    hasc.optional?_written hmessage (fun _ => rfl) fun _ => rfl]
  exact (Option.map_eq_bind ..).symm

/-- A response is read back unless it answers a permission request without
interrupting, and then it is not read. -/
theorem ofJson?_toJson (r : Response) :
    ofJson? r.toJson = if r.withoutInterrupt then none else some r := by
  rw [ofJson?_eq_map_specific]
  obtain ⟨specific, decision, reason, goesOn, stopReason, systemMessage⟩ := r
  cases specific with
  | none => rfl
  | some s =>
      rw [Option.elim_some, s.ofJson?_toJson]
      show _ = if s.withoutInterrupt then none else some _
      split
      · rfl
      · rfl

/-- Only an answer to a permission request can be one without interruption. -/
theorem kind_of_withoutInterrupt {o : Outcome} {e : Event}
    (h : (ofOutcome o e).withoutInterrupt = true) :
    o.kind = .permissionRequest := by
  obtain ⟨s, hs, hwithout⟩ := (Option.any_eq_true _ _).mp h
  rw [← ofOutcome_answers hs]
  cases s with
  | permissionRequest decision => rfl
  | _ => cases hwithout

end Response

-- ============================================================== the outcomes

namespace Outcome

/-- A permission request with this outcome is answered. -/
def AnswersRequest (o : Outcome) : Prop :=
  o.isBlocked = true ∨ o.accumulator.requestDecision.isSome = true
    ∨ o.accumulator.hasUpdatedInput = true

/-- A recorded decision interrupts, and no block replaces it. -/
def Interrupts (o : Outcome) : Prop :=
  ∃ d, o.accumulator.requestDecision = some d ∧ d.interrupt = true
    ∧ (o.isBlocked = true → d.behavior = .deny)

end Outcome

namespace Response

/-- The answer to a blocked request interrupts if it is a recorded refusal that
does. -/
theorem refusedRequest_interrupt (recorded : Option RequestDecision)
    (reason : String) :
    (refusedRequest recorded reason).interrupt = true
      ↔ ∃ d, recorded = some d ∧ d.interrupt = true ∧ d.behavior = .deny := by
  cases recorded with
  | none => exact ⟨nofun, nofun⟩
  | some d =>
      unfold refusedRequest
      dsimp only
      split
      · next hdeny =>
          refine ⟨fun h => ⟨d, rfl, h, hdeny⟩, ?_⟩
          rintro ⟨d', hd, h, -⟩
          cases hd
          exact h
      · next hallow =>
          refine ⟨nofun, ?_⟩
          rintro ⟨d', hd, -, hdeny⟩
          cases hd
          exact absurd hdeny hallow

/-- A request that is not blocked is answered without interrupting if there is
something to answer and no recorded decision interrupts. -/
theorem answeredRequest_interrupt (recorded : Option RequestDecision)
    (input : Option Fields) :
    (∃ d, answeredRequest recorded input = some d ∧ d.interrupt = false)
      ↔ (recorded.isSome = true ∨ input.isSome = true)
        ∧ ¬ ∃ d, recorded = some d ∧ d.interrupt = true := by
  cases recorded with
  | none =>
      cases input with
      | none => exact ⟨nofun, fun h => absurd h.1 (by decide)⟩
      | some fields =>
          exact ⟨fun _ => ⟨Or.inr rfl, nofun⟩, fun _ => ⟨_, rfl, rfl⟩⟩
  | some d =>
      obtain ⟨d', hd', hsame⟩ : ∃ d', answeredRequest (some d) input = some d'
          ∧ d'.interrupt = d.interrupt := by
        refine ⟨_, rfl, ?_⟩
        split
        · rfl
        · rfl
      rw [hd']
      simp [hsame]

/-- What makes the response to a permission request one without interruption. -/
theorem ofOutcome_of_request {o : Outcome} (e : Event)
    (hk : o.kind = .permissionRequest) :
    (ofOutcome o e).withoutInterrupt = true
      ↔ match o.refusal with
        | some reason =>
            (refusedRequest o.accumulator.requestDecision reason).interrupt
              = false
        | none =>
            ∃ d, answeredRequest o.accumulator.requestDecision
              (o.effectiveInput e) = some d ∧ d.interrupt = false := by
  show (unspoken o e).withoutInterrupt = true ↔ _
  unfold unspoken
  rw [hk]
  dsimp only
  unfold ofRequest
  dsimp only
  cases o.refusal with
  | some reason =>
      show (!(refusedRequest _ reason).interrupt) = true ↔ _
      rw [Bool.not_eq_true']
  | none =>
      dsimp only
      cases answeredRequest o.accumulator.requestDecision
        (o.effectiveInput e) with
      | none => exact ⟨nofun, nofun⟩
      | some d =>
          show (!d.interrupt) = true ↔ _
          rw [Bool.not_eq_true']
          exact ⟨fun h => ⟨d, rfl, h⟩, fun ⟨_, hd, h⟩ => Option.some.inj hd ▸ h⟩

/-- The responses without interruption are those to permission requests that are
answered by anything but a decision that interrupts. -/
theorem ofOutcome_withoutInterrupt (o : Outcome) (e : Event) :
    (ofOutcome o e).withoutInterrupt = true
      ↔ o.kind = .permissionRequest ∧ o.AnswersRequest ∧ ¬ o.Interrupts := by
  by_cases hk : o.kind = .permissionRequest
  · rw [ofOutcome_of_request e hk]
    cases hb : o.isBlocked with
    | true =>
        have hrefusal : o.refusal
            = some (o.blockReason.getD Outcome.fallbackReason) := if_pos hb
        rw [hrefusal]
        dsimp only
        rw [← Bool.not_eq_true, refusedRequest_interrupt]
        simp [hk, hb, Outcome.AnswersRequest, Outcome.Interrupts]
    | false =>
        have hinput : (o.effectiveInput e).isSome
            = o.accumulator.hasUpdatedInput := by
          unfold Outcome.effectiveInput
          cases o.accumulator.hasUpdatedInput with
          | true => rfl
          | false => rfl
        rw [Outcome.refusal_of_not_blocked hb]
        dsimp only
        rw [answeredRequest_interrupt, hinput]
        simp [hk, hb, Outcome.AnswersRequest, Outcome.Interrupts]
  · exact ⟨fun h => absurd (kind_of_withoutInterrupt h) hk,
      fun h => absurd h.1 hk⟩

end Response

/-- The response to an outcome is read back from the object that it is written
as, unless it answers a permission request and does not interrupt. Then nothing
can be read. -/
theorem response_is_read_back (o : Outcome) (e : Event) :
    (Response.ofJson? (Response.ofOutcome o e).toJson
        = some (Response.ofOutcome o e)
      ↔ ¬ (o.kind = .permissionRequest ∧ o.AnswersRequest ∧ ¬ o.Interrupts))
    ∧ (Response.ofJson? (Response.ofOutcome o e).toJson = none
      ↔ o.kind = .permissionRequest ∧ o.AnswersRequest ∧ ¬ o.Interrupts) := by
  rw [← Response.ofOutcome_withoutInterrupt o e, Response.ofJson?_toJson]
  cases (Response.ofOutcome o e).withoutInterrupt with
  | true => exact ⟨⟨nofun, fun h => absurd rfl h⟩, ⟨fun _ => rfl, fun _ => rfl⟩⟩
  | false => exact ⟨⟨fun _ => nofun, fun _ => rfl⟩, ⟨nofun, nofun⟩⟩

/-- A rule that allows a permission request: the response says so, and cannot be
read back. -/
theorem allowed_request_is_not_read_back :
    let e : Engine :=
      { host := ⟨.empty, none, "/"⟩
        runner := fun _ => .ok ⟨0, .exited 0, [], []⟩ }
    let c := Context.ofEvent "/" ⟨{ sessionId := "s" }, .permissionRequest
      ⟨"Bash", .obj [("command", .str "ls")], none⟩⟩
    let o := (e.evaluateRulesIn e.world
      [{ id := "ls", actions := [{ kind := .allow }] }] c "").outcome
    (Response.ofOutcome o c.event).toJson
        = .obj [("hookSpecificOutput", .obj [
            ("decision", .obj [("behavior", .str "allow")]),
            ("hookEventName", .str "PermissionRequest")])]
      ∧ Response.ofJson? (Response.ofOutcome o c.event).toJson = none := by
  intro e c o
  exact ⟨by cbv, by cbv⟩

end HookRules
