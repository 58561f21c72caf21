/-
Which rules run for an event, and in which order.

Every rule gets a verdict: it is switched off, it does not listen to the event,
its condition is false or wrong, or it matches. The rules that match run by
priority, and within a priority in the order in which they are defined. The
trail of an event tells the verdict of every rule with the place in the order
of running of those that match.
-/
import HookRules.Condition.Compile
import HookRules.Pass

namespace HookRules

/-- Why a rule runs for an event or does not. -/
inductive Verdict where
  | disabled
  | eventMismatch
  | conditionFalse
  | conditionError (e : ConditionError)
  | matched
deriving DecidableEq

namespace Verdict

def isMatch (v : Verdict) : Bool := v == .matched

def name : Verdict → String
  | disabled => "disabled"
  | eventMismatch => "event_mismatch"
  | conditionFalse => "condition_false"
  | conditionError _ => "condition_error"
  | matched => "matched"

/-- The verdict as an object; a wrong condition comes with what is wrong. -/
def toJson (v : Verdict) : Json :=
  let detail := match v with
    | conditionError e => [("detail", Json.str e.message)]
    | _ => []
  .ofFields (("verdict", .str v.name) :: detail)

end Verdict

namespace Rule

/-- Whether the condition of a rule holds in a view. -/
def conditionHolds (r : Rule) (registry : Registry) (view : Fields) : Except ConditionError Bool :=
  (Condition.compile r.condition).bind fun c => c.holds registry view

/-- The verdict on a rule for an event of a kind with a flat view. -/
def verdict (registry : Registry) (k : EventKind) (view : Fields) (r : Rule) : Verdict :=
  if !r.enabled then .disabled
  else if !r.appliesTo k then .eventMismatch
  else match r.conditionHolds registry view with
    | .ok true => .matched
    | .ok false => .conditionFalse
    | .error e => .conditionError e

end Rule

namespace Selection

/-- Rules in the order of running. -/
def sorted (rules : List Rule) : List Rule :=
  rules.mergeSort fun a b => a.priority.rank ≤ b.priority.rank

/-- Rules in the order of running with their places. -/
def numbered (rules : List Rule) : List Selected :=
  rules.zipIdx.map fun (rule, order) => ⟨rule, order⟩

/-- The rules that run, in their order. -/
def select (registry : Registry) (k : EventKind) (view : Fields) (rules : List Rule) :
    List Selected :=
  numbered (sorted (rules.filter fun r => (r.verdict registry k view).isMatch))

end Selection

-- ============================================================== trails

/-- What a trail tells about one rule. -/
structure TrailEntry where
  ruleId : String
  priority : Priority
  condition : String
  verdict : Verdict
  /-- The place in the order of running, if the rule runs. -/
  order : Option Nat

namespace TrailEntry

def toJson (e : TrailEntry) : Json :=
  .ofFields ([("rule_id", .str e.ruleId), ("priority", .str e.priority.name),
    ("condition", .str e.condition), ("trail", e.verdict.toJson)]
    ++ Fields.ofOption "match_order" (fun n : Nat => .ofInt n) e.order)

end TrailEntry

namespace Selection

/-- The entry of a rule before the order of running is known. -/
def judged (registry : Registry) (k : EventKind) (view : Fields) (r : Rule) : TrailEntry where
  ruleId := r.id
  priority := r.priority
  condition := r.condition
  verdict := r.verdict registry k view
  order := none

/-- Whether the entry at an index stands before another in the order of running,
or is that entry: entries are compared by rank and then by index. -/
def runsFirst (p q : TrailEntry × Nat) : Bool :=
  p.1.priority.rank < q.1.priority.rank
    || (p.1.priority.rank == q.1.priority.rank && p.2 ≤ q.2)

/-- The indices of the entries that match, in the order of running. -/
def running (entries : List TrailEntry) : List Nat :=
  ((entries.zipIdx.filter fun p => p.1.verdict.isMatch).mergeSort runsFirst).map (·.2)

/-- Writes a place in the order of running into the entry at an index. -/
def writeOrder (entries : List TrailEntry) (index order : Nat) : List TrailEntry :=
  entries.modify index fun e => { e with order := some order }

/-- The trail of an event, in the order in which the rules are defined: all
rules are judged, and then those that match get their places. -/
def trail (registry : Registry) (k : EventKind) (view : Fields) (rules : List Rule) :
    List TrailEntry :=
  let entries := rules.map (judged registry k view)
  (running entries).zipIdx.foldl
    (fun entries (index, order) => writeOrder entries index order) entries

end Selection

end HookRules
