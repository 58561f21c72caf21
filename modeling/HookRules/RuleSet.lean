/-
Sets of rules from documents.

A document holds settings and rules. A set is extended document by document:
settings that a document gives replace those from before, and its rules are
added at the end, where each id may occur once. A rule knows the document that
it comes from. When an id occurs again the rules before it stay added.
-/
import HookRules.Rule.Basic
import HookRules.Settings
import HookRules.Toml.Reader

namespace HookRules

structure RuleSet where
  settings : Settings := {}
  rules : List Rule := []

/-- Why a document could not be added as a whole. -/
inductive RuleSetFault where
  | unreadable (path : String)
  | malformed (origin : String)
  | duplicate (id first second : String)
deriving DecidableEq

def RuleSetFault.message : RuleSetFault → String
  | .unreadable path => "Failed to read rule file " ++ path
  | .malformed origin => "Failed to parse rule file " ++ origin
  | .duplicate id first second =>
    "Duplicate rule id '" ++ id ++ "' (first defined in " ++ first ++ ", again in " ++ second ++ ")"

-- ========================================================== documents

/-- The settings that a document gives. -/
structure SettingsChange where
  timeoutMs : Option Nat := none
  maxOutputBytes : Option Nat := none
  shell : Option String := none

namespace SettingsChange

def ofToml? (v : Json) : Option SettingsChange := do
  let fs ← v.recordIn? .toml ["timeout_ms", "max_output_bytes", "shell"]
  return {
    timeoutMs := ← Fields.optionalIn? .toml fs "timeout_ms" Json.nat64?
    maxOutputBytes := ← Fields.optionalIn? .toml fs "max_output_bytes" Json.nat64?
    shell := ← Fields.optionalIn? .toml fs "shell" Json.str? }

/-- The settings with what is given replaced. -/
def applyTo (c : SettingsChange) (s : Settings) : Settings where
  timeoutMs := c.timeoutMs.getD s.timeoutMs
  maxOutputBytes := c.maxOutputBytes.getD s.maxOutputBytes
  shell := c.shell.or s.shell

end SettingsChange

/-- What a document holds. -/
structure RuleFile where
  settings : SettingsChange := {}
  rules : List Rule := []

/-- The contents of a TOML document. -/
def RuleFile.ofToml? (text : String) : Option RuleFile := do
  let fs ← (← Toml.read? text).obj?
  return {
    settings := ← Fields.default? fs "settings" {} SettingsChange.ofToml?
    rules := ← Fields.default? fs "rules" [] (Json.list? (Rule.read? .toml)) }

-- ============================================================ extending

namespace RuleSet

/-- Adds rules from a document up to the first whose id is there already. -/
def addRules (origin : String) : RuleSet → List Rule → RuleSet × Option RuleSetFault
  | s, [] => (s, none)
  | s, r :: rest =>
    match s.rules.find? fun other => other.id == r.id with
    | some other => (s, some (.duplicate r.id (other.sourceFile.getD "") origin))
    | none =>
      let r := { r with sourceFile := some (r.sourceFile.getD origin) }
      addRules origin { s with rules := s.rules ++ [r] } rest

/-- Extends a set by a document. A document that cannot be read changes nothing. -/
def extend (s : RuleSet) (origin text : String) : RuleSet × Option RuleSetFault :=
  match RuleFile.ofToml? text with
  | none => (s, some (.malformed origin))
  | some file => addRules origin { s with settings := file.settings.applyTo s.settings } file.rules

/-- Extends a set by a document that may not be there. -/
def extendFrom (s : RuleSet) (path : String) (text : Option String) :
    RuleSet × Option RuleSetFault :=
  match text with
  | none => (s, some (.unreadable path))
  | some text => s.extend path text

end RuleSet

end HookRules
