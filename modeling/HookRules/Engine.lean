/-
The engine.

An engine has rules and what they may use: settings, callables, stores, an
environment, the machine and a way to run programs. Evaluating an event selects
the rules that match it and runs them in one pass that starts from nothing.

What the actions of a pass reach outside the engine need not stay the same from
one action to the next. A pass therefore runs in a world that says what each
action meets; an engine by itself runs in the world that never changes.
-/
import HookRules.Selection

namespace HookRules

/-- What an action reaches outside the engine. -/
structure Surroundings where
  entrypoints : Entrypoints
  host : Host
  runner : Runner

/-- The surroundings of each action of a pass, by the number of actions that ran
before it. -/
abbrev World := Nat → Surroundings

/-- The time as one evaluation reads it: once when the rules are matched, and
once more when those that matched start to run. -/
structure Clock where
  matching : String
  running : String

/-- A clock that stands. -/
instance : Coe String Clock := ⟨fun t => ⟨t, t⟩⟩

structure Engine where
  rules : List Rule := []
  settings : Settings := {}
  entrypoints : Entrypoints := {}
  stores : Stores := {}
  /-- The variables that conditions may read. -/
  env : String → Option String := fun _ => none
  host : Host
  runner : Runner

/-- Everything that comes out of one evaluation. -/
structure Outcome where
  kind : EventKind
  /-- What the rules add up to, if nothing refused the event. -/
  result : Option Summary
  blocked : Option Block := none
  /-- The rules that ran up to a refusal. -/
  beforeBlock : Option Summary := none
  accumulator : Accumulator := {}
  /-- The rules that matched, in the order of running. -/
  matchedIds : List String := []

namespace Outcome

/-- An event is blocked by a refusal, or by a rule that is labelled to block. -/
def isBlocked (o : Outcome) : Bool := o.blocked.isSome || o.result.any (·.shouldBlock)

def blockReason (o : Outcome) : Option String :=
  match o.blocked with
  | some block => some block.reason
  | none => o.result.bind (·.blockReason)

def warnings (o : Outcome) : List String := (o.result.map (·.warnings)).getD []

def toJson (o : Outcome) : Json :=
  .ofFields ([("hook_event_type", .str o.kind.ruleName),
    ("result", (o.result.map Summary.toJson).getD .null),
    ("blocked", (o.blocked.map Block.toJson).getD .null),
    ("accumulator", o.accumulator.toJson),
    ("matched_rule_ids", .arr (o.matchedIds.map .str))]
    ++ Fields.ofOption "partial" Summary.toJson o.beforeBlock)

end Outcome

/-- An outcome and what was logged on the way to it. -/
structure Evaluation where
  outcome : Outcome
  logs : List LogEntry

namespace Engine

/-- The first rule with an id. -/
def rule? (e : Engine) (id : String) : Option Rule := e.rules.find? fun r => r.id == id

/-- The functions that conditions can call for a context. -/
def registry (e : Engine) (c : Context) : Registry :=
  { Registry.ofContext e.host c with stores := e.stores, env := e.env }

/-- What an action of a rule may read. -/
def occasion (e : Engine) (s : Surroundings) (c : Context) (view : Fields) (rule : Rule) :
    Occasion where
  context := c
  view := view
  rule := rule
  settings := e.settings
  entrypoints := s.entrypoints
  host := s.host
  runner := s.runner

/-- What an action of a rule contributes at some point of a pass in a world. -/
def act (e : Engine) (world : World) (c : Context) (view : Fields) (rule : Rule) (p : Progress)
    (a : Action) : Contribution :=
  contribution (e.occasion (world p.steps) c view rule) p.accumulator.updatedInput a

/-- Runs selected rules for a context in a world. -/
def runIn (e : Engine) (world : World) (c : Context) (view : Fields) (p : Progress)
    (selected : List Selected) : PassRun :=
  runRules (e.act world c view) p selected

/-- The world of an engine whose surroundings stay as they are. -/
def world (e : Engine) : World := fun _ => ⟨e.entrypoints, e.host, e.runner⟩

/-- Runs selected rules for a context. -/
def run (e : Engine) (c : Context) (view : Fields) (p : Progress) (selected : List Selected) :
    PassRun :=
  e.runIn e.world c view p selected

/-- Evaluates some rules in a world. The view in which the rules are matched and
the view in which they run are two: they differ in the time. -/
def evaluateRulesIn (e : Engine) (world : World) (rules : List Rule) (c : Context)
    (clock : Clock) : Evaluation :=
  let selected := Selection.select (e.registry c) c.kind (c.view clock.matching) rules
  let run := e.runIn world c (c.view clock.running) {} selected
  { outcome :=
      { kind := c.kind
        result := if run.block.isNone then some run.summary else none
        blocked := run.block
        beforeBlock := if run.block.isSome then some run.summary else none
        accumulator := run.progress.accumulator
        matchedIds := selected.map (·.rule.id) }
    logs := run.progress.logs }

/-- Evaluates some rules. -/
def evaluateRules (e : Engine) (rules : List Rule) (c : Context) (clock : Clock) : Evaluation :=
  e.evaluateRulesIn e.world rules c clock

/-- Evaluates all rules of the engine in a world. -/
def evaluateIn (e : Engine) (world : World) (c : Context) (clock : Clock) : Evaluation :=
  e.evaluateRulesIn world e.rules c clock

/-- Evaluates all rules of the engine. -/
def evaluate (e : Engine) (c : Context) (clock : Clock) : Evaluation :=
  e.evaluateRules e.rules c clock

/-- The trail of some rules for a context, taken at a time of its own. -/
def trail (e : Engine) (rules : List Rule) (c : Context) (timestamp : String) : List TrailEntry :=
  Selection.trail (e.registry c) c.kind (c.view timestamp) rules

end Engine

end HookRules
