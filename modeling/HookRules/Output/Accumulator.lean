/-
What actions have decided and collected so far.

A pass has one accumulator. Actions write to it through `Effect`s only: the two
permission channels hold what was written last, messages and context items are
added at the end, and the changed tool input holds one value for each field.
-/
import HookRules.Json.Decode

namespace HookRules

/-- A decision about a tool call. -/
inductive PermissionDecision where
  | allow | deny | ask
deriving DecidableEq, Inhabited

namespace PermissionDecision

def name : PermissionDecision → String
  | allow => "allow"
  | deny => "deny"
  | ask => "ask"

def ofName? (s : String) : Option PermissionDecision :=
  [allow, deny, ask].find? fun d => d.name == s

@[simp] theorem ofName?_name (d : PermissionDecision) : ofName? d.name = some d := by
  cases d <;> decide

end PermissionDecision

/-- The answer to a permission dialog. -/
inductive Behavior where
  | allow | deny
deriving DecidableEq, Inhabited

namespace Behavior

def name : Behavior → String
  | allow => "allow"
  | deny => "deny"

def ofName? (s : String) : Option Behavior := [allow, deny].find? fun b => b.name == s

@[simp] theorem ofName?_name (b : Behavior) : ofName? b.name = some b := by cases b <;> decide

end Behavior

/-- The decision that answers a permission request. -/
structure RequestDecision where
  behavior : Behavior
  message : Option String := none
  updatedInput : Option Fields := none
  interrupt : Bool := false
deriving Inhabited

namespace RequestDecision

/-- The answer that allows a request and says nothing more. -/
def allowed : RequestDecision := { behavior := .allow }

/-- The answer that refuses a request. -/
def denied (message : String) (interrupt : Bool) : RequestDecision :=
  { behavior := .deny, message := some message, interrupt }

/-- The decision as an object; an interruption is written only if there is one. -/
def toJson (d : RequestDecision) : Json :=
  .ofFields (
    [("behavior", .str d.behavior.name)]
    ++ Fields.ofOption "message" Json.str d.message
    ++ Fields.ofOption "updatedInput" Json.obj d.updatedInput
    ++ (if d.interrupt then [("interrupt", .bool true)] else []))

/-- The decision of an object, which has to say whether to interrupt. `name?` reads
the name of an alternative. -/
def read? (name? : Json → Option String) (v : Json) : Option RequestDecision := do
  let fs ← v.record? ["behavior", "message", "updatedInput", "interrupt"]
  return {
    behavior := ← Fields.required? fs "behavior" fun v => (name? v).bind Behavior.ofName?
    message := ← Fields.optional? fs "message" Json.str?
    updatedInput := ← Fields.optional? fs "updatedInput" Json.obj?
    interrupt := ← Fields.required? fs "interrupt" Json.bool? }

/-- The decision of a JSON value by itself. -/
def ofJson? (v : Json) : Option RequestDecision := read? Json.alternative? v

end RequestDecision

-- ======================================================== accumulator

/-- What a pass has decided and collected. It begins empty and is only ever
changed by effects. -/
structure Accumulator where
  permissionDecision : Option PermissionDecision := none
  permissionReason : Option String := none
  requestDecision : Option RequestDecision := none
  systemMessages : List String := []
  contextItems : List String := []
  updatedInput : Fields := []
deriving Inhabited

/-- One thing that an action does to the accumulator. -/
inductive Effect where
  | permission (decision : PermissionDecision) (reason : Option String)
  | answer (decision : RequestDecision)
  | message (text : String)
  | context (text : String)
  | field (name : String) (value : Json)

namespace Accumulator

/-- An accumulator after one effect. A new permission brings its reason along,
and takes the old reason away if it has none. -/
def apply (acc : Accumulator) : Effect → Accumulator
  | .permission decision reason =>
    { acc with permissionDecision := some decision, permissionReason := reason }
  | .answer decision => { acc with requestDecision := some decision }
  | .message text => { acc with systemMessages := acc.systemMessages ++ [text] }
  | .context text => { acc with contextItems := acc.contextItems ++ [text] }
  | .field name value => { acc with updatedInput := Fields.insert name value acc.updatedInput }

/-- Effects one after the other. -/
def applyAll (acc : Accumulator) (effects : List Effect) : Accumulator :=
  effects.foldl apply acc

/-- The context items as one text, if there are any. -/
def additionalContext (acc : Accumulator) : Option String :=
  if acc.contextItems.isEmpty then none else some ("\n\n".intercalate acc.contextItems)

/-- The system messages as one text, if there are any. -/
def systemMessage (acc : Accumulator) : Option String :=
  if acc.systemMessages.isEmpty then none else some ("\n".intercalate acc.systemMessages)

/-- Whether any field of the tool input was changed. -/
def hasUpdatedInput (acc : Accumulator) : Bool := !acc.updatedInput.isEmpty

/-- The accumulator as diagnostics show it: every part is written, null where
there is nothing. -/
def toJson (acc : Accumulator) : Json :=
  .ofFields [
    ("permission_decision", (acc.permissionDecision.map fun d => Json.str d.name).getD .null),
    ("permission_decision_reason", .ofOption acc.permissionReason),
    ("permission_request_decision", (acc.requestDecision.map RequestDecision.toJson).getD .null),
    ("system_messages", .arr (acc.systemMessages.map .str)),
    ("additional_context_items", .arr (acc.contextItems.map .str)),
    ("updated_input", .obj acc.updatedInput)]

end Accumulator

end HookRules
