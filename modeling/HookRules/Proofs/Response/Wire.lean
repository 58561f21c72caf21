/-
What the agent finds in a response.

Each lemma says what the written object of a response holds under a name, in
terms of the parts of the response. The names of the specific part are told
apart by what the part answers, so a permission is found in the answer to a tool
call only and a decision in the answer to a permission request only.

`RefusalForm` is the protocol's side: the place where an event is refused, the
value that refuses it there, and the place of the reason.
-/
import HookRules.Proofs.Json.Fields
import HookRules.Response.Basic

namespace HookRules

-- ==================================================== the specific part

namespace SpecificOutput

/-- The permission of an answer to a tool call; the answers to other events
have none. -/
def permission? : SpecificOutput → Option PermissionDecision
  | preToolUse decision _ _ => decision
  | _ => none

/-- The reason of an answer to a tool call. -/
def permissionReason? : SpecificOutput → Option String
  | preToolUse _ reason _ => reason
  | _ => none

/-- The answer to a permission request. -/
def request? : SpecificOutput → Option RequestDecision
  | permissionRequest decision => some decision
  | _ => none

/-- The changed input in the answer to a tool call or a permission request. -/
def updatedInput? : SpecificOutput → Option Fields
  | preToolUse _ _ input => input
  | permissionRequest decision => decision.updatedInput
  | _ => none

/-- The specific part names the event that it answers, in the spelling of the
protocol. -/
theorem get?_kind (s : SpecificOutput) :
    s.toJson.get? "hookEventName" = some (.str s.kind.wireName) := by
  cases s <;> simp [toJson, fields, kindField]

/-- A permission is written for a tool call only, so an agent that finds one
knows which event was answered. -/
theorem get?_permission (s : SpecificOutput) :
    s.toJson.get? "permissionDecision"
      = s.permission?.map fun d => .str d.name := by
  cases s <;> simp [toJson, fields, kindField, permission?]

/-- So is its reason, whether or not there is a permission beside it. -/
theorem get?_permissionReason (s : SpecificOutput) :
    s.toJson.get? "permissionDecisionReason"
      = s.permissionReason?.map .str := by
  cases s <;> simp [toJson, fields, kindField, permissionReason?]

/-- The nested decision is written for a permission request only. -/
theorem get?_decision (s : SpecificOutput) :
    s.toJson.get? "decision" = s.request?.map (·.toJson) := by
  cases s <;> simp [toJson, fields, kindField, request?]

end SpecificOutput

namespace RequestDecision

/-- The behavior is always written. -/
theorem get?_behavior (d : RequestDecision) :
    d.toJson.get? "behavior" = some (.str d.behavior.name) := by
  cases hi : d.interrupt <;> simp [toJson, hi]

/-- The message is the reason of a refused request. -/
theorem get?_message (d : RequestDecision) :
    d.toJson.get? "message" = d.message.map .str := by
  cases hi : d.interrupt <;> simp [toJson, hi]

/-- The changed input of a request stands in its decision and not beside it. -/
theorem get?_updatedInput (d : RequestDecision) :
    d.toJson.get? "updatedInput" = d.updatedInput.map .obj := by
  cases hi : d.interrupt <;> simp [toJson, hi]

/-- Only an interruption is written; one that is not asked for is left out, and
so a reader without a default for it fails. -/
theorem get?_interrupt (d : RequestDecision) :
    d.toJson.get? "interrupt"
      = if d.interrupt then some (.bool true) else none := by
  cases hi : d.interrupt <;> simp [toJson, hi]

end RequestDecision

-- =================================================== without changed input

/-- A decision without a changed input does not name one. The name could not
come from elsewhere either, since a decision holds no free JSON but that input. -/
theorem RequestDecision.mentions_updatedInput {d : RequestDecision}
    (h : d.updatedInput = none) :
    d.toJson.mentions "updatedInput" = false := by
  -- the behavior, the message, the changed input and the interruption
  refine Json.mentions_ofFields (.append (.append (.append ?_ ?_) ?_) ?_)
  · exact .cons (by decide) rfl (.nil _)
  · exact .ofOption (by decide) fun _ _ => rfl
  · rw [h]
    exact .nil _
  · split
    · exact .cons (by decide) rfl (.nil _)
    · exact .nil _

/-- A specific part without a changed input does not name one, at whatever
depth. -/
theorem SpecificOutput.mentions_updatedInput {s : SpecificOutput}
    (h : s.updatedInput? = none) :
    s.toJson.mentions "updatedInput" = false := by
  refine Json.mentions_ofFields (.cons (by decide) rfl ?_)
  cases s with
  | preToolUse decision reason input =>
      have hnone : input = none := h
      subst hnone
      refine .append (.append ?_ ?_) (.nil _)
      · exact .ofOption (by decide) fun _ _ => rfl
      · exact .ofOption (by decide) fun _ _ => rfl
  | permissionRequest decision =>
      exact .cons (by decide) (RequestDecision.mentions_updatedInput h) (.nil _)
  | userPromptSubmit context => exact .ofOption (by decide) fun _ _ => rfl
  | sessionStart context => exact .ofOption (by decide) fun _ _ => rfl
  | postToolUse context => exact .ofOption (by decide) fun _ _ => rfl

/-- A response names a changed input only if its specific part has one:
everything else in it is a text or a truth value. -/
theorem Response.mentions_updatedInput {r : Response}
    (h : ∀ s, r.specific = some s → s.updatedInput? = none) :
    r.toJson.mentions "updatedInput" = false := by
  -- the specific part and then five fields with texts and truth values
  refine Json.mentions_ofFields (.append (.append (.append (.append (.append
    ?_ ?_) ?_) ?_) ?_) ?_)
  · exact .ofOption (by decide) fun s hs =>
      SpecificOutput.mentions_updatedInput (h s hs)
  all_goals exact .ofOption (by decide) fun _ _ => rfl

-- ======================================================== forms of refusals

/-- The form of a refusal in the hook protocol. -/
structure RefusalForm where
  /-- Where the event is refused. -/
  place : List String
  /-- What refuses it there. -/
  refusing : Json
  /-- Where the reason is given. -/
  reason : List String

/-- The form that each kind of event has for a refusal: a permission, a nested
decision, a decision to block, or the end of the session. -/
def EventKind.refusalForm : EventKind → RefusalForm
  | .preToolUse =>
      { place := ["hookSpecificOutput", "permissionDecision"]
        refusing := .str "deny"
        reason := ["hookSpecificOutput", "permissionDecisionReason"] }
  | .permissionRequest =>
      { place := ["hookSpecificOutput", "decision", "behavior"]
        refusing := .str "deny"
        reason := ["hookSpecificOutput", "decision", "message"] }
  | .userPromptSubmit | .postToolUse | .stop | .subagentStop =>
      { place := ["decision"], refusing := .str "block", reason := ["reason"] }
  | .sessionStart | .sessionEnd | .preCompact | .notification =>
      { place := ["continue"], refusing := .bool false
        reason := ["stopReason"] }

/-- An object that the agent reads refuses an event of a kind. -/
def EventKind.RefusedBy (k : EventKind) (v : Json) : Prop :=
  v.at? k.refusalForm.place = some k.refusalForm.refusing

-- ====================================================== the whole response

namespace Response

/-- The specific part is one object among the fields of the response. -/
theorem get?_specific (r : Response) :
    r.toJson.get? "hookSpecificOutput" = r.specific.map (·.toJson) := by
  simp [toJson]

/-- What a response holds below its specific part is what that part holds. The
lemmas on nested places below go through it. -/
theorem at?_specific (r : Response) (path : List String) :
    r.toJson.at? ("hookSpecificOutput" :: path)
      = r.specific.bind fun s => s.toJson.at? path := by
  rw [Json.at?_cons, get?_specific, Option.bind_map]
  rfl

/-- The permission of a response, read at its place from the root. -/
theorem at?_permission (r : Response) :
    r.toJson.at? ["hookSpecificOutput", "permissionDecision"]
      = (r.specific.bind (·.permission?)).map fun d => .str d.name := by
  rw [at?_specific]
  cases r.specific with
  | none => rfl
  | some s => simp [s.get?_permission]

/-- The reason beside that permission. -/
theorem at?_permissionReason (r : Response) :
    r.toJson.at? ["hookSpecificOutput", "permissionDecisionReason"]
      = (r.specific.bind (·.permissionReason?)).map .str := by
  rw [at?_specific]
  cases r.specific with
  | none => rfl
  | some s => simp [s.get?_permissionReason]

/-- The behavior of a nested decision is two objects deep, and there is none in
the answer to any event but a request. -/
theorem at?_behavior (r : Response) :
    r.toJson.at? ["hookSpecificOutput", "decision", "behavior"]
      = (r.specific.bind (·.request?)).map fun d => .str d.behavior.name := by
  rw [at?_specific]
  cases r.specific with
  | none => rfl
  | some s =>
      rw [Option.bind_some, Json.at?_cons, s.get?_decision, Option.bind_map,
        Option.bind_some]
      cases s.request? with
      | none => rfl
      | some d => simp [d.get?_behavior]

/-- Its message, which not every decision has. -/
theorem at?_message (r : Response) :
    r.toJson.at? ["hookSpecificOutput", "decision", "message"]
      = (r.specific.bind (·.request?)).bind fun d => d.message.map .str := by
  rw [at?_specific]
  cases r.specific with
  | none => rfl
  | some s =>
      rw [Option.bind_some, Json.at?_cons, s.get?_decision, Option.bind_map,
        Option.bind_some]
      cases s.request? with
      | none => rfl
      | some d => simp [d.get?_message]

/-- The decision at the root is that of the feedback events. A nested one has
the same name and another place. -/
theorem at?_decision (r : Response) :
    r.toJson.at? ["decision"] = r.decision.map .str := by
  simp [toJson]

/-- The reason beside the decision at the root. -/
theorem at?_reason (r : Response) :
    r.toJson.at? ["reason"] = r.reason.map .str := by
  simp [toJson]

/-- Whether the session goes on, if anything is said about it. -/
theorem at?_goesOn (r : Response) :
    r.toJson.at? ["continue"] = r.goesOn.map .bool := by
  simp [toJson]

/-- Why it does not. -/
theorem at?_stopReason (r : Response) :
    r.toJson.at? ["stopReason"] = r.stopReason.map .str := by
  simp [toJson]

end Response

end HookRules
