/-
What a pass writes to the log on behalf of rules.

An entry is the message of an action that logs, or text that an automation
wrote and that its action sends to the log.
-/
import HookRules.Event.Kind
import HookRules.Json.Basic
import HookRules.Rule.Action

namespace HookRules

/-- One of the two outputs of an automation. -/
inductive Stream where
  | stdout | stderr
deriving DecidableEq, Inhabited

def Stream.name : Stream → String
  | stdout => "stdout"
  | stderr => "stderr"

inductive LogEntry where
  | stated (ruleId : String) (kind : EventKind) (level : LogLevel) (message : String)
  | captured (ruleId : String) (stream : Stream) (message : String)
deriving DecidableEq

namespace LogEntry

/-- Text from standard error is a warning, other captured text is not. -/
def level : LogEntry → LogLevel
  | stated _ _ level _ => level
  | captured _ .stdout _ => .info
  | captured _ .stderr _ => .warning

/-- The word for a level in a log. -/
def levelWord : LogLevel → String
  | .debug => "DEBUG"
  | .info => "INFO"
  | .warning => "WARN"
  | .error => "ERROR"

def toJson (e : LogEntry) : Json :=
  match e with
  | stated ruleId kind _ message =>
    .ofFields [("rule_id", .str ruleId), ("hook_type", .str kind.ruleName),
      ("message", .str message), ("level", .str (levelWord e.level))]
  | captured ruleId stream message =>
    .ofFields [("rule_id", .str ruleId), ("stream", .str stream.name),
      ("message", .str message), ("level", .str (levelWord e.level))]

end LogEntry

end HookRules
