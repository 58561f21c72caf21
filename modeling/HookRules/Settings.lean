/-
Settings for actions that run something.

The defaults count where neither the settings nor the action say otherwise.
-/
import HookRules.Json.Decode

namespace HookRules

structure Settings where
  /-- The time that an action may take. -/
  timeoutMs : Nat := 10000
  /-- The greatest size of captured output. -/
  maxOutputBytes : Nat := 102400
  shell : Option String := none
deriving DecidableEq, Inhabited

namespace Settings

/-- The shell that runs command lines if none is set. -/
def defaultShell : String := "sh"

/-- The time limit of an action that may have one of its own. -/
def timeoutFor (s : Settings) (own : Option Nat) : Nat := own.getD s.timeoutMs

/-- The shell of an action that may have one of its own. -/
def shellFor (s : Settings) (own : Option String) : String :=
  (own.or s.shell).getD defaultShell

def ofJson? (v : Json) : Option Settings := do
  let fs ← v.record? ["timeout_ms", "max_output_bytes", "shell"]
  return {
    timeoutMs := ← Fields.default? fs "timeout_ms" 10000 Json.nat64?
    maxOutputBytes := ← Fields.default? fs "max_output_bytes" 102400 Json.nat64?
    shell := ← Fields.optional? fs "shell" Json.str? }

def toJson (s : Settings) : Json :=
  .ofFields ([("timeout_ms", .ofInt s.timeoutMs), ("max_output_bytes", .ofInt s.maxOutputBytes)]
    ++ Fields.ofOption "shell" Json.str s.shell)

end Settings

end HookRules
