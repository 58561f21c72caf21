/-
The response to an event from the outcome of its evaluation.

A blocked outcome is a refusal in the form that the kind of event has for it. A
tool event that is not blocked may carry a decision and the changed input; other
events may carry context. Messages of actions and warnings of rules are shown
together, messages first.
-/
import HookRules.Engine
import HookRules.Response.Basic

namespace HookRules

namespace Outcome

/-- What the agent is told if nothing gives a reason. -/
def fallbackReason : String := "Blocked by hook rules"

/-- The reason of a refusal, if the outcome is one. -/
def refusal (o : Outcome) : Option String :=
  if o.isBlocked then some (o.blockReason.getD fallbackReason) else none

/-- The complete tool input with all changes, if there are any. An input that is
no object counts as empty. -/
def effectiveInput (o : Outcome) (e : Event) : Option Fields :=
  if o.accumulator.hasUpdatedInput then
    some (Fields.overlay ((e.toolInput?.bind Json.obj?).getD []) o.accumulator.updatedInput)
  else none

/-- Messages and warnings as one text, if there are any. -/
def shownMessage (o : Outcome) : Option String :=
  match o.accumulator.systemMessages ++ o.warnings with
  | [] => none
  | lines => some ("\n".intercalate lines)

end Outcome

namespace Response

def ofToolUse (o : Outcome) (e : Event) : Response :=
  let acc := o.accumulator
  match o.refusal with
  | some reason =>
    let recorded := if acc.permissionDecision = some .deny then acc.permissionReason else none
    ofSpecific (.preToolUse (some .deny) (some (recorded.getD reason)) none)
  | none =>
    let input := o.effectiveInput e
    if acc.permissionDecision.isNone && input.isNone then {}
    else ofSpecific (.preToolUse acc.permissionDecision acc.permissionReason input)

/-- The answer to a permission dialog that was blocked: the recorded refusal, or
one with the reason of the block. -/
def refusedRequest (recorded : Option RequestDecision) (reason : String) : RequestDecision :=
  match recorded with
  | some d => if d.behavior = .deny then d else .denied reason false
  | none => .denied reason false

/-- The answer to a permission dialog that was not blocked. A changed input alone
answers it as well. -/
def answeredRequest (recorded : Option RequestDecision) (input : Option Fields) :
    Option RequestDecision :=
  match recorded with
  | some d => some (if d.behavior = .allow then { d with updatedInput := input } else d)
  | none => input.map fun fields => { RequestDecision.allowed with updatedInput := some fields }

def ofRequest (o : Outcome) (e : Event) : Response :=
  let recorded := o.accumulator.requestDecision
  let answered := match o.refusal with
    | some reason => some (refusedRequest recorded reason)
    | none => answeredRequest recorded (o.effectiveInput e)
  match answered with
  | some d => ofSpecific (.permissionRequest d)
  | none => {}

/-- The context as the specific part of a response to a kind of event. -/
def contextPart (k : EventKind) (context : Option String) : SpecificOutput :=
  match k with
  | .userPromptSubmit => .userPromptSubmit context
  | .sessionStart => .sessionStart context
  | _ => .postToolUse context

/-- A prompt that is blocked loses its context; the start of a session cannot be
blocked but stopped, and keeps it. -/
def ofContext (o : Outcome) : Response :=
  let context := o.accumulator.additionalContext
  let r : Response := match o.refusal with
    | some reason => if o.kind = .sessionStart then stop reason else block reason
    | none => {}
  let dropped := r.decision.isSome && o.kind == .userPromptSubmit
  if context.isSome && !dropped then { r with specific := some (contextPart o.kind context) } else r

/-- The response without its message. -/
def unspoken (o : Outcome) (e : Event) : Response :=
  match o.kind with
  | .preToolUse => ofToolUse o e
  | .permissionRequest => ofRequest o e
  | .userPromptSubmit | .sessionStart | .postToolUse => ofContext o
  | .stop | .subagentStop => (o.refusal.map block).getD {}
  | .sessionEnd | .preCompact | .notification => (o.refusal.map stop).getD {}

/-- The response to an event with an outcome. -/
def ofOutcome (o : Outcome) (e : Event) : Response :=
  { unspoken o e with systemMessage := o.shownMessage }

end Response

end HookRules
