/-
The kinds of hook events.

Each kind has two spellings, the one of the hook protocol and the one that
rules use. What a response to an event can carry depends on its kind: a
permission decision, the answer to a permission request, a changed tool input,
or further context for the agent.
-/
namespace HookRules

inductive EventKind where
  | preToolUse
  | postToolUse
  | userPromptSubmit
  | sessionStart
  | sessionEnd
  | permissionRequest
  | stop
  | subagentStop
  | preCompact
  | notification
deriving DecidableEq, Inhabited

namespace EventKind

/-- All kinds, in the order in which they are listed to users. -/
def all : List EventKind :=
  [.preToolUse, .postToolUse, .userPromptSubmit, .sessionStart, .sessionEnd,
   .permissionRequest, .stop, .subagentStop, .preCompact, .notification]

/-- The spelling in rules. -/
def ruleName : EventKind → String
  | preToolUse => "pre_tool_use"
  | postToolUse => "post_tool_use"
  | userPromptSubmit => "user_prompt_submit"
  | sessionStart => "session_start"
  | sessionEnd => "session_end"
  | permissionRequest => "permission_request"
  | stop => "stop"
  | subagentStop => "subagent_stop"
  | preCompact => "pre_compact"
  | notification => "notification"

/-- The spelling in the hook protocol. -/
def wireName : EventKind → String
  | preToolUse => "PreToolUse"
  | postToolUse => "PostToolUse"
  | userPromptSubmit => "UserPromptSubmit"
  | sessionStart => "SessionStart"
  | sessionEnd => "SessionEnd"
  | permissionRequest => "PermissionRequest"
  | stop => "Stop"
  | subagentStop => "SubagentStop"
  | preCompact => "PreCompact"
  | notification => "Notification"

/-- The kind of a name in either spelling. -/
def ofName? (name : String) : Option EventKind :=
  all.find? fun k => k.ruleName == name || k.wireName == name

/-- The kind of a name in the spelling of the hook protocol. -/
def ofWireName? (name : String) : Option EventKind := all.find? fun k => k.wireName == name

/-- What a user is told about a name that is no kind. -/
def unknownMessage (name : String) : String :=
  "Unknown hook event type: '" ++ name ++ "'. Valid options: "
    ++ ", ".intercalate (all.map ruleName)

/-- The response can allow or deny the tool call. -/
def decidesPermission (k : EventKind) : Bool := k == .preToolUse

/-- The response can answer a permission dialog. -/
def answersRequest (k : EventKind) : Bool := k == .permissionRequest

/-- The response can change the tool input. -/
def mutatesInput (k : EventKind) : Bool := k == .preToolUse || k == .permissionRequest

/-- The response can add context for the agent. -/
def injectsContext (k : EventKind) : Bool :=
  k == .userPromptSubmit || k == .sessionStart || k == .postToolUse

/-- The event is about one tool call. -/
def isToolEvent (k : EventKind) : Bool :=
  k == .preToolUse || k == .postToolUse || k == .permissionRequest

@[simp] theorem ofName?_ruleName (k : EventKind) : ofName? k.ruleName = some k := by
  cases k <;> decide

@[simp] theorem ofName?_wireName (k : EventKind) : ofName? k.wireName = some k := by
  cases k <;> decide

@[simp] theorem ofWireName?_wireName (k : EventKind) : ofWireName? k.wireName = some k := by
  cases k <;> decide

end EventKind

end HookRules
