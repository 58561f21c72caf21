/-
Hook events.

An event has the data that every event carries and the payload of its kind.
-/
import HookRules.Event.Kind
import HookRules.Json.Basic

namespace HookRules

/-- How the agent asks for permissions. -/
inductive PermissionMode where
  | standard
  | plan
  | acceptEdits
  | bypassPermissions
deriving DecidableEq, Inhabited

namespace PermissionMode

def name : PermissionMode → String
  | standard => "default"
  | plan => "plan"
  | acceptEdits => "acceptEdits"
  | bypassPermissions => "bypassPermissions"

def ofName? (s : String) : Option PermissionMode :=
  [standard, plan, acceptEdits, bypassPermissions].find? fun m => m.name == s

end PermissionMode

/-- Why a session started. -/
inductive SessionSource where
  | startup | resume | clear | compact
deriving DecidableEq, Inhabited

namespace SessionSource

def name : SessionSource → String
  | startup => "startup"
  | resume => "resume"
  | clear => "clear"
  | compact => "compact"

def ofName? (s : String) : Option SessionSource :=
  [startup, resume, clear, compact].find? fun m => m.name == s

end SessionSource

/-- Why a session ended. -/
inductive SessionEndReason where
  | clear | logout | promptInputExit | other
deriving DecidableEq, Inhabited

namespace SessionEndReason

def name : SessionEndReason → String
  | clear => "clear"
  | logout => "logout"
  | promptInputExit => "prompt_input_exit"
  | other => "other"

/-- Every name that is not known is some other reason. -/
def ofName (s : String) : SessionEndReason :=
  ([clear, logout, promptInputExit].find? fun m => m.name == s).getD other

end SessionEndReason

/-- What made the agent compact its context. -/
inductive CompactTrigger where
  | manual | auto
deriving DecidableEq, Inhabited

namespace CompactTrigger

def name : CompactTrigger → String
  | manual => "manual"
  | auto => "auto"

def ofName? (s : String) : Option CompactTrigger :=
  [manual, auto].find? fun m => m.name == s

end CompactTrigger

/-- The data of every event. The working directory is empty when the agent left
it out. -/
structure EventCommon where
  sessionId : String
  transcriptPath : String := ""
  cwd : String := ""
  permissionMode : PermissionMode := .standard
deriving DecidableEq, Inhabited

/-- A tool with its arguments, which may have any form. -/
structure ToolCall where
  name : String
  input : Json
  useId : Option String
deriving Inhabited

/-- What an event of each kind has besides the common data. -/
inductive Payload where
  | preToolUse (call : ToolCall)
  | postToolUse (call : ToolCall) (response : Json)
  | permissionRequest (call : ToolCall)
  | userPromptSubmit (prompt : String)
  | sessionStart (source : SessionSource)
  | sessionEnd (reason : SessionEndReason)
  /-- `active` when the agent goes on because a hook refused an earlier stop. -/
  | stop (active : Bool)
  | subagentStop (active : Bool)
  | preCompact (trigger : CompactTrigger) (instructions : Option String)
  | notification (message : String)
deriving Inhabited

/-- An event. Its kind is not kept beside the payload but read off it, so the
two always agree. -/
structure Event where
  common : EventCommon
  payload : Payload
deriving Inhabited

namespace Event

/-- The kind that the payload belongs to. -/
def kind (e : Event) : EventKind :=
  match e.payload with
  | .preToolUse _ => .preToolUse
  | .postToolUse _ _ => .postToolUse
  | .permissionRequest _ => .permissionRequest
  | .userPromptSubmit _ => .userPromptSubmit
  | .sessionStart _ => .sessionStart
  | .sessionEnd _ => .sessionEnd
  | .stop _ => .stop
  | .subagentStop _ => .subagentStop
  | .preCompact _ _ => .preCompact
  | .notification _ => .notification

/-- The tool call of the three tool events. -/
def call? (e : Event) : Option ToolCall :=
  match e.payload with
  | .preToolUse call => some call
  | .postToolUse call _ => some call
  | .permissionRequest call => some call
  | _ => none

/-- What the tool is called with. It need not be an object, and where it is
none there are no fields to change. -/
def toolInput? (e : Event) : Option Json := e.call?.map (·.input)

/-- What the tool returned. -/
def toolResponse? (e : Event) : Option Json :=
  match e.payload with
  | .postToolUse _ response => some response
  | _ => none

/-- What the user has written. -/
def prompt? (e : Event) : Option String :=
  match e.payload with
  | .userPromptSubmit prompt => some prompt
  | _ => none

end Event

end HookRules
