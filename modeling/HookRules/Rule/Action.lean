/-
Actions of rules.

An action has a kind and the options that some kind reads; options that its kind
does not read are kept and mean nothing. An action whose kind is not known does
nothing.
-/
import HookRules.Json.Decode

namespace HookRules

/-- What an action does. The kinds that add context have two names and one
meaning. -/
inductive ActionKind where
  | deny | allow | warn | suggest | inject | modify | transform | log | shell
  /-- A call of a registered callable. -/
  | callable
  | noop
deriving DecidableEq, Inhabited

namespace ActionKind

def name : ActionKind → String
  | deny => "deny"
  | allow => "allow"
  | warn => "warn"
  | suggest => "suggest"
  | inject => "inject"
  | modify => "modify"
  | transform => "transform"
  | log => "log"
  | shell => "shell"
  | callable => "python"
  | noop => "noop"

/-- The kind of a name; callables have two names, and every unknown name is an
action that does nothing. -/
def ofName (s : String) : ActionKind :=
  if s = "callable" then callable
  else ([deny, allow, warn, suggest, inject, modify, transform, log, shell, callable].find?
    fun k => k.name == s).getD noop

@[simp] theorem ofName_name (k : ActionKind) : ofName k.name = k := by cases k <;> decide

end ActionKind

/-- How a value changes a field that already has one. -/
inductive ModifyOperation where
  | set | append | prepend | replace
deriving DecidableEq, Inhabited

namespace ModifyOperation

def name : ModifyOperation → String
  | set => "set"
  | append => "append"
  | prepend => "prepend"
  | replace => "replace"

/-- The operation of a name, which has to be spelled as it is written. -/
def ofName? (s : String) : Option ModifyOperation :=
  [set, append, prepend, replace].find? fun o => o.name == s

@[simp] theorem ofName?_name (o : ModifyOperation) : ofName? o.name = some o := by
  cases o <;> decide

end ModifyOperation

/-- What a subprocess reads. -/
inductive StdinMode where
  | none | json
deriving DecidableEq, Inhabited

namespace StdinMode

def name : StdinMode → String
  | none => "none"
  | json => "json"

def ofName? (s : String) : Option StdinMode := [StdinMode.none, json].find? fun m => m.name == s

@[simp] theorem ofName?_name (m : StdinMode) : ofName? m.name = some m := by cases m <;> decide

end StdinMode

/-- Where the plain output of a subprocess goes. -/
inductive OutputMode where
  | ignore | log | appendToStdout
deriving DecidableEq, Inhabited

namespace OutputMode

def name : OutputMode → String
  | ignore => "ignore"
  | log => "log"
  | appendToStdout => "append_to_stdout"

def ofName? (s : String) : Option OutputMode :=
  [ignore, log, appendToStdout].find? fun m => m.name == s

@[simp] theorem ofName?_name (m : OutputMode) : ofName? m.name = some m := by cases m <;> decide

end OutputMode

/-- How serious a logged message is. -/
inductive LogLevel where
  | debug | info | warning | error
deriving DecidableEq, Inhabited

namespace LogLevel

def name : LogLevel → String
  | debug => "debug"
  | info => "info"
  | warning => "warning"
  | error => "error"

/-- The level of a name in any case; an unknown name is the ordinary level. -/
def ofName (s : String) : LogLevel :=
  match String.ofList (s.toList.map Char.toLower) with
  | "debug" | "trace" => debug
  | "warning" | "warn" => warning
  | "error" | "critical" => error
  | _ => info

@[simp] theorem ofName_name (l : LogLevel) : ofName l.name = l := by cases l <;> decide

end LogLevel

/-- A configured action. All kinds share one record, and what a kind does not
read may be set and is kept. -/
structure Action where
  kind : ActionKind
  message : Option String := none
  content : Option String := none
  /-- The tool input field that a modification changes. -/
  field : Option String := none
  operation : Option ModifyOperation := none
  value : Option Json := none
  /-- The pattern that a replacement looks for. -/
  pattern : Option String := none
  /-- A command line for the shell. -/
  command : Option String := none
  /-- A program with arguments, run without a shell. -/
  script : Option String := none
  shell : Option String := none
  entrypoint : Option String := none
  env : List (String × String) := []
  cwd : Option String := none
  timeoutMs : Option Nat := none
  stdin : Option StdinMode := none
  stdout : Option OutputMode := none
  stderr : Option OutputMode := none
  level : Option LogLevel := none
  /-- A refusal also stops the agent. -/
  interrupt : Bool := false
deriving Inhabited

namespace Action

/-- The text of an action that shows a message. -/
def text (a : Action) : Option String := a.message.or a.content

/-- The text of an action that adds context. -/
def injectedText (a : Action) : Option String := a.content.or a.message

-- =========================================================== reading

/-- The names of the fields of a written action, in order. -/
def fieldNames : List String :=
  ["type", "message", "content", "field", "operation", "value", "pattern", "command", "script",
   "shell", "entrypoint", "env", "cwd", "timeout_ms", "stdin", "stdout", "stderr", "level",
   "interrupt"]

/-- The action of a value that is written in a format. -/
def read? (format : DataFormat) (v : Json) : Option Action := do
  let fs ← v.recordIn? format fieldNames
  let option {α : Type} (name : String) (read : Json → Option α) : Option (Option α) :=
    Fields.optionalIn? format fs name read
  return {
    kind := ← Fields.required? fs "type" fun v => (v.alternativeIn? format).map ActionKind.ofName
    message := ← option "message" Json.str?
    content := ← option "content" Json.str?
    field := ← option "field" Json.str?
    operation := ← option "operation" fun v => (v.alternativeIn? format).bind ModifyOperation.ofName?
    value := ← option "value" some
    pattern := ← option "pattern" Json.str?
    command := ← option "command" Json.str?
    script := ← option "script" Json.str?
    shell := ← option "shell" Json.str?
    entrypoint := ← option "entrypoint" Json.str?
    env := ← Fields.default? fs "env" [] (Json.dictionary? Json.str?)
    cwd := ← option "cwd" Json.str?
    timeoutMs := ← option "timeout_ms" Json.nat64?
    stdin := ← option "stdin" fun v => (v.alternativeIn? format).bind StdinMode.ofName?
    stdout := ← option "stdout" fun v => (v.alternativeIn? format).bind OutputMode.ofName?
    stderr := ← option "stderr" fun v => (v.alternativeIn? format).bind OutputMode.ofName?
    level := ← option "level" fun v => v.str?.map LogLevel.ofName
    interrupt := ← Fields.default? fs "interrupt" false Json.bool? }

-- =========================================================== writing

/-- An action as an object. Options that are not set are left out, the
interruption is always written. -/
def toJson (a : Action) : Json :=
  let text := Fields.ofOption (α := String)
  .ofFields (
    [("type", .str a.kind.name)]
    ++ text "message" .str a.message
    ++ text "content" .str a.content
    ++ text "field" .str a.field
    ++ Fields.ofOption "operation" (fun o => .str o.name) a.operation
    ++ Fields.ofOption "value" id a.value
    ++ text "pattern" .str a.pattern
    ++ text "command" .str a.command
    ++ text "script" .str a.script
    ++ text "shell" .str a.shell
    ++ text "entrypoint" .str a.entrypoint
    ++ (if a.env.isEmpty then []
        else [("env", .ofFields (a.env.map fun (k, v) => (k, .str v)))])
    ++ text "cwd" .str a.cwd
    ++ Fields.ofOption "timeout_ms" (fun n : Nat => .ofInt n) a.timeoutMs
    ++ Fields.ofOption "stdin" (fun m => .str m.name) a.stdin
    ++ Fields.ofOption "stdout" (fun m => .str m.name) a.stdout
    ++ Fields.ofOption "stderr" (fun m => .str m.name) a.stderr
    ++ Fields.ofOption "level" (fun l => .str l.name) a.level
    ++ [("interrupt", .bool a.interrupt)])

end Action

end HookRules
