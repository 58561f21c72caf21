/-
The contribution of an action, by its kind.
-/
import HookRules.Contribution.Directive
import HookRules.Contribution.Input

namespace HookRules

/-- What an action contributes when `updated` is what the actions before it have
changed in the tool input. Only a modification looks at that.

Of everything that the actions before have written, this is all that is handed on:
no action can look at their messages, their context or their decisions, and that
it cannot is said by the type alone. -/
def contribution (o : Occasion) (updated : Fields) (a : Action) : Contribution :=
  match a.kind with
  | .deny => .deny o a
  | .allow => .allow o a
  | .warn => .warn o a
  | .suggest | .inject => .inject o a
  | .modify => .modify o updated a
  | .transform => .transform o a
  | .log => .log o a
  | .shell => .shell o a
  | .callable => .call o a
  | .noop => .nothing

end HookRules
