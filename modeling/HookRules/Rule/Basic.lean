/-
Rules.

A rule listens to events, has a condition and a list of actions, and a label
that says what its running means. Rules run by priority; within a priority they
keep the order in which they are defined.
-/
import HookRules.Event.Kind
import HookRules.Rule.Action
import HookRules.Snapshot.Git
import HookRules.Text.Blank

namespace HookRules

inductive Priority where
  | critical | high | medium | low
deriving DecidableEq, Inhabited

namespace Priority

/-- The place in the order of running. -/
def rank : Priority → Nat
  | critical => 0
  | high => 1
  | medium => 2
  | low => 3

def name : Priority → String
  | critical => "critical"
  | high => "high"
  | medium => "medium"
  | low => "low"

/-- The priority of a name in any case; an unknown name is the middle one. -/
def ofName (s : String) : Priority :=
  match String.ofList (s.toList.map Char.toLower) with
  | "critical" => critical
  | "high" => high
  | "low" => low
  | _ => medium

@[simp] theorem ofName_name (p : Priority) : ofName p.name = p := by cases p <;> decide

end Priority

/-- What the running of a rule means. -/
inductive Label where
  | block | ok | warn
deriving DecidableEq, Inhabited

namespace Label

def name : Label → String
  | block => "block"
  | ok => "ok"
  | warn => "warn"

def ofName? (s : String) : Option Label := [block, ok, warn].find? fun l => l.name == s

@[simp] theorem ofName?_name (l : Label) : ofName? l.name = some l := by cases l <;> decide

end Label

-- ====================================================== event filters

/-- The events that a rule listens to: names in the spelling of rules, in
ascending order and each once. -/
structure EventFilter where
  names : List String
deriving DecidableEq, Inhabited

namespace EventFilter

/-- The name that stands for every event. -/
def everyEvent : String := "all"

/-- A name without blanks around it, an event's name in the spelling of rules. -/
def normalName (s : String) : String :=
  let name := Text.trim s
  match EventKind.ofName? name with
  | some k => k.ruleName
  | none => name

def ofNames (names : List String) : EventFilter := ⟨sortedSet (names.map normalName)⟩

def all : EventFilter := ofNames [everyEvent]

def appliesTo (f : EventFilter) (k : EventKind) : Bool :=
  f.names.contains everyEvent || f.names.contains k.ruleName

/-- The filter of one name or a list of names. -/
def ofJson? : Json → Option EventFilter
  | .str s => some (ofNames [s])
  | v => (v.list? Json.str?).map ofNames

end EventFilter

-- ============================================================== rules

structure Rule where
  id : String
  priority : Priority := .medium
  events : EventFilter := .all
  /-- The text of the condition; a blank one always matches. -/
  condition : String := ""
  enabled : Bool := true
  /-- No further rule runs after this one. -/
  terminal : Bool := false
  result : Label := .ok
  description : Option String := none
  actions : List Action := []
  /-- Where the rule was read from. -/
  sourceFile : Option String := none
deriving Inhabited

namespace Rule

def appliesTo (r : Rule) (k : EventKind) : Bool := r.events.appliesTo k

/-- What a refusal says if the rule gives no text for it. -/
def blockText (r : Rule) : String := "Blocked by rule '" ++ r.id ++ "'"

/-- What a warning says if the rule gives no text for it. -/
def warningText (r : Rule) : String := "Warning from rule '" ++ r.id ++ "'"

/-- The description of a rule without the blanks around it; another text if it is
blank or there is none. -/
def describedOr (r : Rule) (other : String) : String :=
  ((r.description.map Text.trim).filter (· ≠ "")).getD other

/-- The names of the fields of a written rule, in order. -/
def fieldNames : List String :=
  ["id", "priority", "events", "condition", "enabled", "terminal", "result", "description",
   "actions", "source_file"]

/-- The rule of a value that is written in a format. -/
def read? (format : DataFormat) (v : Json) : Option Rule := do
  let fs ← v.recordIn? format fieldNames
  return {
    id := ← Fields.required? fs "id" Json.str?
    priority := ← Fields.default? fs "priority" .medium fun v => v.str?.map Priority.ofName
    events := ← Fields.default? fs "events" .all EventFilter.ofJson?
    condition := ← Fields.default? fs "condition" "" Json.str?
    enabled := ← Fields.default? fs "enabled" true Json.bool?
    terminal := ← Fields.default? fs "terminal" false Json.bool?
    result := ← Fields.default? fs "result" .ok fun v => (v.alternativeIn? format).bind Label.ofName?
    description := ← Fields.optionalIn? format fs "description" Json.str?
    actions := ← Fields.default? fs "actions" [] (Json.list? (Action.read? format))
    sourceFile := ← Fields.optionalIn? format fs "source_file" Json.str? }

/-- The rule of a JSON value. -/
def ofJson? (v : Json) : Option Rule := read? .json v

def toJson (r : Rule) : Json :=
  .ofFields (
    [("id", .str r.id), ("priority", .str r.priority.name),
     ("events", .arr (r.events.names.map .str)), ("condition", .str r.condition),
     ("enabled", .bool r.enabled), ("terminal", .bool r.terminal),
     ("result", .str r.result.name)]
    ++ Fields.ofOption "description" Json.str r.description
    ++ [("actions", .arr (r.actions.map Action.toJson))]
    ++ Fields.ofOption "source_file" Json.str r.sourceFile)

end Rule

end HookRules
