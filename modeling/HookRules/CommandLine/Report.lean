/-
What a command answers.

A command reads the files that its arguments name, evaluates or checks, and
prints JSON. A file that cannot be used ends it with a failure; an event that
cannot be used ends only the commands that explain, while evaluating answers it
with an empty response.
-/
import HookRules.CommandLine.Arguments
import HookRules.Engine
import HookRules.Event.Wire
import HookRules.Json.Indented
import HookRules.Response.Build
import HookRules.RuleSet

namespace HookRules

namespace CommandLine

/-- What a command works in. -/
structure Surroundings where
  host : Host
  runner : Runner
  env : String → Option String
  stdin : String
  /-- The time at which a trail is taken, as text. -/
  timestamp : String
  /-- The time as an evaluation reads it. -/
  clock : Clock := timestamp

/-- Why a command could not do its work. -/
inductive Failure where
  | rules (path : String)
  | stateUnreadable (path : String)
  | stateMalformed
  | stateDocument (fault : MemoryStore.DocumentFault)
  | unreadable (path : String)
  | badEvent
  | gitUnreadable (path : String)
  | gitMalformed
  | unknownRule (id : String)

def Failure.message : Failure → String
  | .rules path => "Failed to load rules from " ++ path
  | .stateUnreadable path => "Failed to read state file " ++ path
  | .stateMalformed => "State file is not valid JSON"
  | .stateDocument fault => fault.message
  | .unreadable path => "Failed to read " ++ path
  | .badEvent => "Invalid hook event JSON"
  | .gitUnreadable path => "Failed to read git snapshot " ++ path
  | .gitMalformed => "Git snapshot is not valid JSON"
  | .unknownRule id => "No rule with id '" ++ id ++ "'"

/-- What a command prints and its exit code. -/
structure Report where
  exit : Nat := 0
  stdout : String := ""
  failure : Option Failure := none
  usage : Option UsageFault := none

namespace Report

/-- One value on a line of its own. -/
def ofText (exit : Nat) (text : String) : Report := { exit, stdout := text ++ "\n" }

def ofFailure (f : Failure) : Report := { exit := 1, failure := some f }

/-- Wrong arguments. -/
def ofUsage (f : UsageFault) : Report := { exit := 2, usage := some f }

end Report

-- ============================================================= reading

def Surroundings.readFile? (s : Surroundings) (path : String) : Option String :=
  s.host.files.read? (s.host.absolute path)

/-- The rules of some files, in order. -/
def loadRules (s : Surroundings) : RuleSet → List String → Except Failure RuleSet
  | set, [] => .ok set
  | set, path :: rest =>
    match set.extendFrom path (s.readFile? path) with
    | (set, none) => loadRules s set rest
    | (_, some _) => .error (.rules path)

/-- The stores of a state document. -/
def loadState (s : Surroundings) (path : String) : Except Failure MemoryStore := do
  let some text := s.readFile? path | throw (.stateUnreadable path)
  let some document := Json.read? text | throw .stateMalformed
  match MemoryStore.ofJson document with
  | .ok store => return store
  | .error fault => throw (.stateDocument fault)

/-- The snapshot of a repository. -/
def loadGit (s : Surroundings) (path : String) : Except Failure GitState := do
  let some text := s.readFile? path | throw (.gitUnreadable path)
  let some git := GitState.ofText? text | throw .gitMalformed
  return git

/-- The engine that the arguments name. -/
def loadEngine (s : Surroundings) (i : Invocation) : Except Failure Engine := do
  let set ← loadRules s {} i.rules
  let stores ← match i.state with
    | some path => (loadState s path).map MemoryStore.stores
    | none => pure {}
  return {
    rules := set.rules
    settings := set.settings
    stores
    env := s.env
    host := s.host
    runner := s.runner }

/-- The text of a file, or of standard input. -/
def readInput (s : Surroundings) (path : String) : Except Failure String :=
  if Invocation.isStandardInput path then .ok s.stdin
  else match s.readFile? path with
    | some text => .ok text
    | none => .error (.unreadable path)

/-- The context of an event. -/
def contextOf (s : Surroundings) (i : Invocation) (event : Event) : Except Failure Context := do
  let git ← match i.git with
    | some path => (loadGit s path).map some
    | none => pure none
  return { Context.ofEvent s.host.directory event with
    git, projectDir := s.env "CLAUDE_PROJECT_DIR" }

/-- The context of the event in a file. -/
def loadContext (s : Surroundings) (i : Invocation) (path : String) : Except Failure Context := do
  let some event := Event.ofText? (← readInput s path) | throw .badEvent
  contextOf s i event

-- ============================================================ printing

/-- A rule in short. -/
def summary (r : Rule) : Json :=
  .ofFields ([("id", .str r.id), ("priority", .str r.priority.name),
    ("events", .arr (r.events.names.map .str)), ("condition", .str r.condition),
    ("enabled", .bool r.enabled), ("terminal", .bool r.terminal), ("result", .str r.result.name),
    ("actions", .ofInt r.actions.length)] ++ Fields.ofOption "source_file" Json.str r.sourceFile)

/-- The trail of some rules and the outcome of evaluating them. -/
def explanation (s : Surroundings) (e : Engine) (rules : List Rule) (c : Context) : Json :=
  .ofFields [("trace", .arr ((e.trail rules c s.timestamp).map TrailEntry.toJson)),
    ("outcome", (e.evaluateRules rules c s.clock).outcome.toJson)]

def evaluateEvent (s : Surroundings) (i : Invocation) (strict : Bool) : Except Failure Report := do
  let e ← loadEngine s i
  match Event.ofText? s.stdin with
  | none => return .ofText (if strict then 1 else 0) "\x7b\x7d"
  | some event =>
    let c ← contextOf s i event
    let outcome := (e.evaluate c s.clock).outcome
    return .ofText 0 (Response.ofOutcome outcome event).toJson.render

def validate (expression : String) : Report :=
  let r := Condition.validate expression
  .ofText (if r.isValid then 0 else 1) r.toJson.renderIndented

def simulate (s : Surroundings) (i : Invocation) (rule event : String) : Except Failure Report := do
  let e ← loadEngine s i
  let c ← loadContext s i event
  let some r := e.rule? rule | throw (.unknownRule rule)
  return .ofText 0 (explanation s e [r] c).renderIndented

def listRules (s : Surroundings) (i : Invocation) : Except Failure Report := do
  let e ← loadEngine s i
  return .ofText 0 (Json.arr (e.rules.map summary)).renderIndented

def testRules (s : Surroundings) (i : Invocation) (event : String) : Except Failure Report := do
  let e ← loadEngine s i
  let c ← loadContext s i event
  return .ofText 0 (explanation s e e.rules c).renderIndented

/-- How the program is called. -/
def usageLines : List String :=
  ["Usage: hookwise [--rules FILE]... [--state FILE] [--git FILE] [--log-level LEVEL] COMMAND",
   "",
   "Commands:",
   "  eval [--strict]                      evaluate the event on standard input",
   "  validate EXPRESSION                  check a condition",
   "  simulate --rule ID [--event FILE]    try one rule on an event",
   "  rules list                           list the rules",
   "  rules test [--event FILE]            try all rules on an event"]

/-- What an invocation answers. -/
def report (s : Surroundings) (i : Invocation) : Report :=
  let answered : Except Failure Report := match i.request with
    | .evaluate strict => evaluateEvent s i strict
    | .validate expression => .ok (validate expression)
    | .simulate rule event => simulate s i rule event
    | .listRules => listRules s i
    | .testRules event => testRules s i event
    | .help => .ok (.ofText 0 ("\n".intercalate usageLines))
    | .version => .ok (.ofText 0 "hookwise 0.1.0")
  match answered with
  | .ok r => r
  | .error f => .ofFailure f

/-- What some arguments answer. -/
def run (s : Surroundings) (args : List String) : Report :=
  match Invocation.ofArguments args with
  | .ok i => report s i
  | .error f => .ofUsage f

end CommandLine

end HookRules
