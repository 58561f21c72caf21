/-
Events as JSON.

An event is one object: its kind in the spelling of the protocol, the common
fields and those of the payload. Reading passes over fields that the kind does
not have and refuses one of its own given twice; writing leaves out optional
fields that are not there.
-/
import HookRules.Event.Basic
import HookRules.Json.Decode
import HookRules.Json.Reader

namespace HookRules

namespace Event

open Fields

-- =========================================================== reading

/-- The data of every event. Only the session has to be given. -/
def readCommon? (fs : List (String × Json)) : Option EventCommon := do
  let sessionId ← required? fs "session_id" Json.str?
  let transcriptPath ← default? fs "transcript_path" "" Json.str?
  let cwd ← default? fs "cwd" "" Json.str?
  let permissionMode ← default? fs "permission_mode" .standard fun v =>
    v.innerAlternative?.bind PermissionMode.ofName?
  return { sessionId, transcriptPath, cwd, permissionMode }

/-- A tool call. Its input may be any value, null too, but has to be there. -/
def readCall? (fs : List (String × Json)) : Option ToolCall := do
  let name ← required? fs "tool_name" Json.str?
  let input ← required? fs "tool_input" some
  let useId ← optional? fs "tool_use_id" Json.str?
  return { name, input, useId }

/-- The payload of an event of a kind. Where a field may be left out, its
default is the one of the hook protocol. -/
def readPayload? (fs : List (String × Json)) : EventKind → Option Payload
  | .preToolUse => (readCall? fs).map .preToolUse
  | .postToolUse => do
    let call ← readCall? fs
    let response ← default? fs "tool_response" .null some
    return .postToolUse call response
  | .permissionRequest => (readCall? fs).map .permissionRequest
  | .userPromptSubmit => (required? fs "prompt" Json.str?).map .userPromptSubmit
  | .sessionStart =>
    (default? fs "source" .startup fun v => v.innerAlternative?.bind SessionSource.ofName?).map
      .sessionStart
  | .sessionEnd =>
    (default? fs "reason" .other fun v => v.innerAlternative?.map SessionEndReason.ofName).map .sessionEnd
  | .stop => (default? fs "stop_hook_active" false Json.bool?).map .stop
  | .subagentStop => (default? fs "stop_hook_active" false Json.bool?).map .subagentStop
  | .preCompact => do
    let trigger ← default? fs "trigger" .auto fun v => v.innerAlternative?.bind CompactTrigger.ofName?
    let instructions ← optional? fs "custom_instructions" Json.str?
    return .preCompact trigger instructions
  | .notification => (default? fs "message" "" Json.str?).map .notification

/-- The event of an object's fields, in written order and with repetitions. -/
def ofFields? (fs : List (String × Json)) : Option Event := do
  let kind ← required? fs "hook_event_name" fun v => v.str?.bind EventKind.ofWireName?
  let common ← readCommon? fs
  let payload ← readPayload? fs kind
  return { common, payload }

/-- The event of a JSON value. -/
def ofJson? (v : Json) : Option Event := v.obj?.bind ofFields?

/-- The event of JSON text. -/
def ofText? (s : String) : Option Event := (Json.readFields? s).bind ofFields?

-- =========================================================== writing

/-- The fields of a tool call, which three kinds of events have. -/
def callFields (call : ToolCall) : List (String × Json) :=
  [("tool_name", .str call.name), ("tool_input", call.input)]
    ++ ofOption "tool_use_id" Json.str call.useId

/-- The fields of a payload under the names that reading looks for. -/
def payloadFields : Payload → List (String × Json)
  | .preToolUse call => callFields call
  | .postToolUse call response => callFields call ++ [("tool_response", response)]
  | .permissionRequest call => callFields call
  | .userPromptSubmit prompt => [("prompt", .str prompt)]
  | .sessionStart source => [("source", .str source.name)]
  | .sessionEnd reason => [("reason", .str reason.name)]
  | .stop active => [("stop_hook_active", .bool active)]
  | .subagentStop active => [("stop_hook_active", .bool active)]
  | .preCompact trigger instructions =>
    ("trigger", .str trigger.name) :: ofOption "custom_instructions" Json.str instructions
  | .notification message => [("message", .str message)]

/-- The fields of every event; those with a default are written as well. -/
def commonFields (c : EventCommon) : List (String × Json) :=
  [("session_id", .str c.sessionId), ("transcript_path", .str c.transcriptPath),
   ("cwd", .str c.cwd), ("permission_mode", .str c.permissionMode.name)]

/-- An event as one object. No name of the payload is one of the common names,
so nothing hides anything. -/
def toJson (e : Event) : Json :=
  .ofFields (("hook_event_name", .str e.kind.wireName)
    :: commonFields e.common ++ payloadFields e.payload)

end Event

end HookRules
