/-
What one action adds to a pass.

An action contributes effects on the accumulator and log entries, and it ends
in one of three ways: it is done, it refuses the event, or it fails. Effects
and entries from before a refusal or a failure count. The two permission
channels are served here: a refusal and a grant go to the one that the event
has, if it has one.
-/
import HookRules.Automation.Process
import HookRules.Output.Accumulator
import HookRules.Output.Log
import HookRules.Template

namespace HookRules

/-- How an action ends. A refusal ends the pass, a failure only the action. -/
inductive Ending where
  | done
  | blocked (reason : String)
  | failed (fault : ActionFault)
deriving DecidableEq

/-- The reason of an ending that is a refusal. -/
def Ending.refusal? : Ending → Option String
  | .blocked reason => some reason
  | _ => none

theorem Ending.refusal?_eq_some_iff {e : Ending} {reason : String} :
    e.refusal? = some reason ↔ e = .blocked reason := by
  cases e <;> simp [refusal?]

/-- What an action adds: effects in their order, log entries in theirs, and how
it ends. To be nothing at all is the default of every part. -/
structure Contribution where
  effects : List Effect := []
  logs : List LogEntry := []
  ending : Ending := .done

namespace Contribution

/-- Nothing at all. -/
def nothing : Contribution := {}

/-- One effect, and done. -/
def effect (e : Effect) : Contribution := { effects := [e] }

/-- One log entry, and done. -/
def entry (e : LogEntry) : Contribution := { logs := [e] }

/-- A failure that has left nothing behind. -/
def fail (fault : ActionFault) : Contribution := { ending := .failed fault }

/-- One contribution and then another, which counts only if the first is done. -/
def andThen (c d : Contribution) : Contribution :=
  match c.ending with
  | .done => { effects := c.effects ++ d.effects, logs := c.logs ++ d.logs, ending := d.ending }
  | _ => c

/-- A contribution made from a result, or the failure to get one. -/
def ofResult (result : Except ActionFault α) (use : α → Contribution) : Contribution :=
  match result with
  | .ok a => use a
  | .error fault => fail fault

end Contribution

namespace Occasion

def kind (o : Occasion) : EventKind := o.context.kind

/-- A text with its placeholders replaced. -/
def render (o : Occasion) (template : String) : String := Template.fill template o.view

end Occasion

namespace Contribution

-- ======================================================== permissions

/-- The effects of a refusal on the channel that an event has. -/
def refusalEffects (k : EventKind) (reason : String) (interrupt : Bool) : List Effect :=
  if k.decidesPermission then [.permission .deny (some reason)]
  else if k.answersRequest then [.answer (.denied reason interrupt)]
  else []

/-- The effects of a grant on the channel that an event has. -/
def grantEffects (k : EventKind) (reason : Option String) : List Effect :=
  if k.decidesPermission then [.permission .allow reason]
  else if k.answersRequest then [.answer .allowed]
  else []

/-- Refuses the event. -/
def refuse (o : Occasion) (reason : String) (interrupt : Bool) : Contribution where
  effects := refusalEffects o.kind reason interrupt
  ending := .blocked reason

/-- Allows what the event asks for. -/
def grant (o : Occasion) (reason : Option String) : Contribution where
  effects := grantEffects o.kind reason

/-- A denial. Its own text stands even if nothing is left of it once the
placeholders are filled; the rule is named only if there is no text. -/
def deny (o : Occasion) (a : Action) : Contribution :=
  refuse o ((a.text.map o.render).getD o.rule.blockText) a.interrupt

/-- An allowance with its text as the reason, if it has one. -/
def allow (o : Occasion) (a : Action) : Contribution := grant o (a.text.map o.render)

-- =========================================================== messages

/-- A message to the agent, which names the rule if there is no text. -/
def warn (o : Occasion) (a : Action) : Contribution :=
  effect (.message ((a.text.map o.render).getD o.rule.warningText))

/-- Adds context where the event takes it and is nothing elsewhere. -/
def inject (o : Occasion) (a : Action) : Contribution :=
  if o.kind.injectsContext then
    match a.injectedText with
    | some content => effect (.context (o.render content))
    | none => fail (.config (.noContent a.kind))
  else nothing

/-- A message to the log. One without a text is logged as an empty one. -/
def log (o : Occasion) (a : Action) : Contribution :=
  entry (.stated o.rule.id o.kind (a.level.getD .info) (o.render (a.text.getD "")))

end Contribution

end HookRules
