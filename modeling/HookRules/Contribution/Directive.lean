/-
Answers of automations.

An automation answers with an object of directives or with plain text. Of the
directives, `inject` adds context, `warn` shows a message, `allow` grants and
`deny` refuses; a refusal wins over a grant. Plain text goes where the action
sends it.
-/
import HookRules.Contribution.Basic
import HookRules.Json.Reader

namespace HookRules

namespace Contribution

-- ========================================================= plain text

/-- Sends text without the blanks around it to where a mode says; blank text
goes nowhere. -/
def route (o : Occasion) (mode : OutputMode) (stream : Stream) (text : String) : Contribution :=
  let text := Text.trim text
  if text = "" then nothing
  else match mode with
    | .ignore => nothing
    | .log => entry (.captured o.rule.id stream text)
    | .appendToStdout => effect (.message text)

-- ========================================================= directives

def injectDirective (o : Occasion) (payload : Fields) : Contribution :=
  match Fields.get? payload "inject" with
  | some (.str content) => if o.kind.injectsContext then effect (.context content) else nothing
  | _ => nothing

def warnDirective (payload : Fields) : Contribution :=
  match Fields.get? payload "warn" with
  | some (.str message) => effect (.message message)
  | _ => nothing

/-- The reason of a refusal, if the payload refuses. -/
def refusalReason? (o : Occasion) (payload : Fields) : Option String :=
  match Fields.get? payload "deny" with
  | some (.bool true) => some o.rule.blockText
  | some (.str reason) =>
    some (if Text.isBlankText reason then o.rule.blockText else reason)
  | _ => none

/-- Whether a payload allows: only the value true does. -/
def grants (payload : Fields) : Bool :=
  match Fields.get? payload "allow" with
  | some (.bool allowed) => allowed
  | _ => false

def decision (o : Occasion) (a : Action) (payload : Fields) : Contribution :=
  match refusalReason? o payload with
  | some reason => refuse o reason a.interrupt
  | none => if grants payload then grant o none else nothing

/-- Carries out the directives of a payload. -/
def directives (o : Occasion) (a : Action) (payload : Fields) : Contribution :=
  (injectDirective o payload).andThen ((warnDirective payload).andThen (decision o a payload))

/-- Carries out an answer in text: directives if it is an object, and plain text
if it is anything else. -/
def answer (o : Occasion) (a : Action) (text : String) : Contribution :=
  match Json.read? (Text.trim text) with
  | some (.obj payload) => directives o a payload
  | _ => route o (a.stdout.getD .log) .stdout text

-- ======================================================== automations

/-- Runs a program. Its standard error is sent on whether it succeeds or not,
its answer counts only if it succeeds. -/
def shell (o : Occasion) (a : Action) : Contribution :=
  ofResult (Process.run o a .none) fun output =>
    (route o (a.stderr.getD .log) .stderr output.stderr).andThen
      (match output.status with
      | .exited 0 => answer o a output.stdout
      | .exited code => fail (.execution (.exited code))
      | .signaled _ => fail (.execution .killed))

/-- Calls a callable. -/
def call (o : Occasion) (a : Action) : Contribution :=
  match a.entrypoint with
  | none => fail (.config .noEntrypoint)
  | some name =>
    ofResult (o.entrypoints.invoke name (.obj o.view) (o.settings.timeoutFor a.timeoutMs))
      fun
      | .obj payload => directives o a payload
      | .str text => answer o a text
      | _ => nothing

end Contribution

end HookRules
