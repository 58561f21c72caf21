/-
Changes of the tool input.

A modification changes one field by an operation; a transformation takes fields
from what a callable or a program answers. Both are nothing for events whose
input cannot be changed. What earlier actions changed is seen instead of the
input that the event came with.
-/
import HookRules.Contribution.Basic
import HookRules.Json.Reader
import HookRules.Regex.Replace

namespace HookRules

namespace Contribution

-- ====================================================== modifications

/-- The value of a field as the actions before left it. -/
def currentValue (o : Occasion) (updated : Fields) (name : String) : Option Json :=
  (Fields.get? updated name).or (o.context.event.toolInput?.bind fun input => input.get? name)

/-- A text with another one added by `join`. A field without a value is like an
empty text; nothing else is changed. -/
def extended (join : String → String → String) (current : Option Json) (value : Json) :
    Option Json :=
  match current, value with
  | some (.str old), .str new => some (.str (join old new))
  | none, .str new => some (.str new)
  | some .null, .str new => some (.str new)
  | _, _ => none

/-- The new value of a field, if the operation gives one. -/
def modified (a : Action) (current : Option Json) : Except ConfigFault (Option Json) :=
  let value := a.value.getD .null
  match a.operation.getD .set with
  | .set => .ok (some value)
  | .append => .ok (extended (fun old new => old ++ new) current value)
  | .prepend => .ok (extended (fun old new => new ++ old) current value)
  | .replace =>
    match a.pattern with
    | none => .error .noPattern
    | some pattern =>
      match Regex.ofText pattern with
      | .error fault => .error (.badPattern fault)
      | .ok regex =>
        match current with
        | some (.str old) => .ok (some (.str (regex.replaceAll old (value.str?.getD ""))))
        | _ => .ok none

/-- Changes one field of the tool input, of which `updated` is what the actions
before have changed. -/
def modify (o : Occasion) (updated : Fields) (a : Action) : Contribution :=
  if o.kind.mutatesInput then
    match a.field.filter (· ≠ "") with
    | none => fail (.config .noField)
    | some name =>
      match modified a (currentValue o updated name) with
      | .error fault => fail (.config fault)
      | .ok (some value) => effect (.field name value)
      | .ok none => nothing
  else nothing

-- ==================================================== transformations

/-- Sets the fields of the `transform_input` of an answer. -/
def mergeAnswer (answer : Json) : Contribution :=
  match answer.get? "transform_input" with
  | some (.obj fields) => { effects := fields.map fun (name, value) => .field name value }
  | _ => nothing

/-- The answer of a program that a transformation ran. Output that is no JSON is
no answer. -/
def programAnswer (output : ProcessOutput) : Except ActionFault Json :=
  if output.status.succeeded then
    .ok ((Json.read? (Text.trim output.stdout)).getD .null)
  else
    .error (.execution (.transformEnded output.status (Text.trim output.stderr)))

/-- What the callable or the program of a transformation answers. -/
def transformAnswer (o : Occasion) (a : Action) : Except ActionFault Json :=
  match a.entrypoint with
  | some name => o.entrypoints.invoke name (.obj o.view) (o.settings.timeoutFor a.timeoutMs)
  | none =>
    if a.command.isSome || a.script.isSome then
      (Process.run o a .json).bind programAnswer
    else .error (.config .noProducer)

def transform (o : Occasion) (a : Action) : Contribution :=
  if o.kind.mutatesInput then ofResult (transformAnswer o a) mergeAnswer else nothing

end Contribution

end HookRules
