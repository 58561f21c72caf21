/-
Responses to hook events.

A response is one object that the agent reads. It refuses, stops or lets the
agent go on, and its specific part answers what only some kinds of events can
be answered.
-/
import HookRules.Event.Wire
import HookRules.Output.Accumulator

namespace HookRules

/-- The part of a response that depends on the kind of the event. -/
inductive SpecificOutput where
  /-- The changed input is complete, not only what changed. -/
  | preToolUse (decision : Option PermissionDecision) (reason : Option String)
      (updatedInput : Option Fields)
  | permissionRequest (decision : RequestDecision)
  | userPromptSubmit (context : Option String)
  | sessionStart (context : Option String)
  | postToolUse (context : Option String)
deriving Inhabited

structure Response where
  specific : Option SpecificOutput := none
  decision : Option String := none
  reason : Option String := none
  /-- False stops the agent. -/
  goesOn : Option Bool := none
  stopReason : Option String := none
  systemMessage : Option String := none
deriving Inhabited

namespace SpecificOutput

/-- The kind of event that is answered. -/
def kind : SpecificOutput → EventKind
  | preToolUse _ _ _ => .preToolUse
  | permissionRequest _ => .permissionRequest
  | userPromptSubmit _ => .userPromptSubmit
  | sessionStart _ => .sessionStart
  | postToolUse _ => .postToolUse

-- ============================================================ writing

/-- The name of the field that says which kind of event is answered. -/
def kindField : String := "hookEventName"

def fields : SpecificOutput → List (String × Json)
  | preToolUse decision reason updatedInput =>
    Fields.ofOption "permissionDecision" (fun d => .str d.name) decision
    ++ Fields.ofOption "permissionDecisionReason" Json.str reason
    ++ Fields.ofOption "updatedInput" Json.obj updatedInput
  | permissionRequest decision => [("decision", decision.toJson)]
  | userPromptSubmit context => Fields.ofOption "additionalContext" Json.str context
  | sessionStart context => Fields.ofOption "additionalContext" Json.str context
  | postToolUse context => Fields.ofOption "additionalContext" Json.str context

def toJson (s : SpecificOutput) : Json :=
  .ofFields ((kindField, .str s.kind.wireName) :: s.fields)

-- ============================================================ reading

/-- The names of the fields that answer a kind of event, in order; `none` for a
kind without an answer of its own. -/
def fieldNames? : EventKind → Option (List String)
  | .preToolUse => some ["permissionDecision", "permissionDecisionReason", "updatedInput"]
  | .permissionRequest => some ["decision"]
  | .userPromptSubmit | .sessionStart | .postToolUse => some ["additionalContext"]
  | _ => none

/-- The answer to an event of a kind from the fields of an object. -/
def ofFields? (fs : List (String × Json)) : EventKind → Option SpecificOutput
  | .preToolUse => do
    let decision ← Fields.optional? fs "permissionDecision" fun v =>
      v.innerAlternative?.bind PermissionDecision.ofName?
    let reason ← Fields.optional? fs "permissionDecisionReason" Json.str?
    let updatedInput ← Fields.optional? fs "updatedInput" Json.obj?
    return preToolUse decision reason updatedInput
  | .permissionRequest =>
    (Fields.required? fs "decision" (RequestDecision.read? Json.innerAlternative?)).map permissionRequest
  | .userPromptSubmit =>
    (Fields.optional? fs "additionalContext" Json.str?).map userPromptSubmit
  | .sessionStart => (Fields.optional? fs "additionalContext" Json.str?).map sessionStart
  | .postToolUse => (Fields.optional? fs "additionalContext" Json.str?).map postToolUse
  | _ => none

/-- The answer of an object, or of a list with the kind before the values of the
fields. -/
def ofJson? : Json → Option SpecificOutput
  | .obj fs => do
    let kind ← Fields.required? fs kindField fun v => v.str?.bind EventKind.ofWireName?
    ofFields? fs kind
  | .arr (.str name :: values) => do
    let kind ← EventKind.ofWireName? name
    let names ← fieldNames? kind
    let fs ← (Json.arr values).record? names
    ofFields? fs kind
  | _ => none

end SpecificOutput

namespace Response

/-- Tells the agent not to go on with what it did, and why. -/
def block (reason : String) : Response := { decision := some "block", reason := some reason }

/-- Stops the agent. -/
def stop (reason : String) : Response := { goesOn := some false, stopReason := some reason }

/-- A response with nothing but a specific part. -/
def ofSpecific (s : SpecificOutput) : Response := { specific := some s }

def toJson (r : Response) : Json :=
  .ofFields (
    Fields.ofOption "hookSpecificOutput" SpecificOutput.toJson r.specific
    ++ Fields.ofOption "decision" Json.str r.decision
    ++ Fields.ofOption "reason" Json.str r.reason
    ++ Fields.ofOption "continue" Json.bool r.goesOn
    ++ Fields.ofOption "stopReason" Json.str r.stopReason
    ++ Fields.ofOption "systemMessage" Json.str r.systemMessage)

def ofJson? (v : Json) : Option Response := do
  let fs ← v.record?
    ["hookSpecificOutput", "decision", "reason", "continue", "stopReason", "systemMessage"]
  return {
    specific := ← Fields.optional? fs "hookSpecificOutput" SpecificOutput.ofJson?
    decision := ← Fields.optional? fs "decision" Json.str?
    reason := ← Fields.optional? fs "reason" Json.str?
    goesOn := ← Fields.optional? fs "continue" Json.bool?
    stopReason := ← Fields.optional? fs "stopReason" Json.str?
    systemMessage := ← Fields.optional? fs "systemMessage" Json.str? }

end Response

end HookRules
