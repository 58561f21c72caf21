/-
A pass over selected rules.

A pass runs rules in order, and the actions of a rule in order. A refusal ends
the pass at once; a terminal rule ends it when its actions have run; a failed
action is recorded and the pass goes on. What an action contributes is a
parameter of the pass, which only looks at how the contribution ends. It may
depend on everything that the pass has come to, the number of actions included:
one action may contribute something else each time it runs.
-/
import HookRules.Contribution.Run

namespace HookRules

/-- A rule that runs, with its place in the order of running. -/
structure Selected where
  rule : Rule
  order : Nat

/-- What happened to one action. An action that refuses the event has succeeded. -/
structure ActionRecord where
  kind : ActionKind
  error : Option String := none
deriving DecidableEq

def ActionRecord.succeeded (r : ActionRecord) : Bool := r.error.isNone

/-- What happened to one rule. -/
structure RuleRecord where
  ruleId : String
  order : Nat
  label : Label
  terminal : Bool
  actions : List ActionRecord
deriving DecidableEq

/-- The number of actions that failed. -/
def RuleRecord.failures (r : RuleRecord) : Nat := (r.actions.filter fun a => !a.succeeded).length

/-- What rules that ran add up to. -/
structure Summary where
  shouldBlock : Bool := false
  /-- The text of the first rule that is labelled to block. -/
  blockReason : Option String := none
  warnings : List String := []
  /-- A terminal rule kept others from running. -/
  terminatedEarly : Bool := false
  rules : List RuleRecord := []
deriving DecidableEq

/-- A refusal with the rule that it comes from. -/
structure Block where
  reason : String
  ruleId : String
deriving DecidableEq

/-- What a pass has come to. -/
structure Progress where
  accumulator : Accumulator := {}
  logs : List LogEntry := []
  /-- The number of actions that have run. -/
  steps : Nat := 0

/-- One more action has run. -/
def Progress.add (p : Progress) (c : Contribution) : Progress where
  accumulator := p.accumulator.applyAll c.effects
  logs := p.logs ++ c.logs
  steps := p.steps + 1

-- ============================================================ actions

/-- The actions of a rule that ran, and the reason of the refusal that ended
them, if one did. -/
structure ActionsRun where
  progress : Progress
  records : List ActionRecord := []
  refusal : Option String := none

def ActionsRun.record (r : ActionsRun) (a : ActionRecord) : ActionsRun :=
  { r with records := a :: r.records }

/-- Runs actions up to the first refusal. -/
def runActions (act : Progress → Action → Contribution) : Progress → List Action → ActionsRun
  | p, [] => { progress := p }
  | p, a :: rest =>
    let c := act p a
    let p := p.add c
    match c.ending with
    | .done => (runActions act p rest).record { kind := a.kind }
    | .failed fault =>
      (runActions act p rest).record { kind := a.kind, error := some fault.message }
    | .blocked reason =>
      { progress := p, records := [{ kind := a.kind }], refusal := some reason }

-- ============================================================== rules

namespace Summary

/-- What one rule adds when its actions have run. -/
def ofRule (r : Rule) (record : RuleRecord) : Summary :=
  match r.result with
  | .block =>
    { shouldBlock := true, blockReason := some (r.describedOr r.blockText), rules := [record] }
  | .warn => { warnings := [r.describedOr r.warningText], rules := [record] }
  | .ok => { rules := [record] }

/-- One summary and then another. -/
def append (a b : Summary) : Summary where
  shouldBlock := a.shouldBlock || b.shouldBlock
  blockReason := a.blockReason.or b.blockReason
  warnings := a.warnings ++ b.warnings
  terminatedEarly := a.terminatedEarly || b.terminatedEarly
  rules := a.rules ++ b.rules

end Summary

/-- A pass that ended. -/
structure PassRun where
  progress : Progress
  summary : Summary := {}
  block : Option Block := none

def Selected.record (s : Selected) (actions : List ActionRecord) : RuleRecord where
  ruleId := s.rule.id
  order := s.order
  label := s.rule.result
  terminal := s.rule.terminal
  actions := actions

/-- Runs rules. A rule whose actions refuse the event is recorded and adds
nothing else. -/
def runRules (act : Rule → Progress → Action → Contribution) :
    Progress → List Selected → PassRun
  | p, [] => { progress := p }
  | p, s :: rest =>
    let run := runActions (act s.rule) p s.rule.actions
    let record := s.record run.records
    match run.refusal with
    | some reason =>
      { progress := run.progress
        summary := { rules := [record] }
        block := some ⟨reason, s.rule.id⟩ }
    | none =>
      let own := Summary.ofRule s.rule record
      if s.rule.terminal then
        { progress := run.progress
          summary := { own with terminatedEarly := !rest.isEmpty } }
      else
        let later := runRules act run.progress rest
        { later with summary := own.append later.summary }

-- ============================================================ writing

def ActionRecord.toJson (r : ActionRecord) : Json :=
  .ofFields ([("action_type", .str r.kind.name), ("success", .bool r.succeeded)]
    ++ Fields.ofOption "error" Json.str r.error)

def RuleRecord.toJson (r : RuleRecord) : Json :=
  .ofFields [("rule_id", .str r.ruleId), ("match_order", .ofInt r.order),
    ("result", .str r.label.name), ("terminal", .bool r.terminal),
    ("actions", .arr (r.actions.map ActionRecord.toJson))]

def Summary.toJson (s : Summary) : Json :=
  .ofFields [("should_block", .bool s.shouldBlock), ("block_reason", .ofOption s.blockReason),
    ("warnings", .arr (s.warnings.map .str)), ("terminated_early", .bool s.terminatedEarly),
    ("rules", .arr (s.rules.map RuleRecord.toJson))]

def Block.toJson (b : Block) : Json :=
  .ofFields [("reason", .str b.reason), ("rule_id", .str b.ruleId)]

end HookRules
