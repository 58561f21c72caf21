/-
Callables by name.

A callable is registered under a module path and a function name, written
`module.path:function`. A name can also hold a plain value, which is no
callable. Registering a name again replaces what it held.
-/
import HookRules.Automation.Fault
import HookRules.Json.Basic
import HookRules.Table
import HookRules.Text.Blank

namespace HookRules

-- ============================================================== names

/-- A module path and the name of a function in it. -/
structure EntrypointName where
  module : String
  function : String
deriving DecidableEq

namespace EntrypointName

/-- An ASCII identifier. -/
def isIdentifier (cs : List Char) : Bool :=
  match cs with
  | [] => false
  | c :: rest => (c.isAlpha || c == '_') && rest.all fun c => c.isAlphanum || c == '_'

/-- Identifiers with dots between them. -/
def isModulePath (cs : List Char) : Bool :=
  (cs.splitOn '.').all isIdentifier

/-- The name that a text gives, blanks around it left out. -/
def ofText? (text : String) : Option EntrypointName :=
  match (Text.trim text).toList.span (· != ':') with
  | (module, _ :: function) =>
    if isModulePath module && isIdentifier function then
      some ⟨String.ofList module, String.ofList function⟩
    else none
  | (_, []) => none

def text (n : EntrypointName) : String := n.module ++ ":" ++ n.function

end EntrypointName

-- ========================================================== callables

/-- How a call ends. -/
inductive CallResult where
  | returned (v : Json)
  | refused (message : String)
  | panicked

/-- A call: how long it takes and how it ends. -/
structure Call where
  elapsedMs : Nat
  result : CallResult

/-- What a name holds. -/
inductive EntrypointSymbol where
  | callable (f : Json → Call)
  | value (v : Json)

/-- Whether something that takes a time is stopped by a limit. -/
def overruns (limitMs elapsedMs : Nat) : Bool := limitMs ≤ elapsedMs

/-- What is registered: the functions of each module. -/
structure Entrypoints where
  modules : Table (Table EntrypointSymbol) := []

namespace Entrypoints

/-- Registers a name. -/
def register (e : Entrypoints) (name : String) (s : EntrypointSymbol) :
    Except ActionFault Entrypoints :=
  match EntrypointName.ofText? name with
  | none => .error (.invalidEntrypoint name)
  | some n =>
    let functions := (e.modules.get? n.module).getD []
    .ok ⟨e.modules.set n.module (functions.set n.function s)⟩

def isEmpty (e : Entrypoints) : Bool := e.modules.isEmpty

/-- The names that are registered, in ascending order. -/
def names (e : Entrypoints) : List String :=
  (e.modules.flatMap fun m => m.2.map fun f => m.1 ++ ":" ++ f.1).mergeSort (· ≤ ·)

/-- The callable of a name. -/
def resolve (e : Entrypoints) (name : String) : Except ActionFault (Json → Call) :=
  match EntrypointName.ofText? name with
  | none => .error (.invalidEntrypoint name)
  | some n =>
    match e.modules.get? n.module with
    | none => .error (.moduleNotFound n.module)
    | some functions =>
      match functions.get? n.function with
      | some (.callable f) => .ok f
      | some (.value _) => .error (.notCallable name)
      | none => .error (.symbolNotFound n.module n.function)

/-- Calls a name; a call that overruns the limit has no value. -/
def invoke (e : Entrypoints) (name : String) (argument : Json) (limitMs : Nat) :
    Except ActionFault Json :=
  (e.resolve name).bind fun f =>
    let call := f argument
    if overruns limitMs call.elapsedMs then .error (.timeout limitMs)
    else match call.result with
      | .returned v => .ok v
      | .refused message => .error (.execution (.refused message))
      | .panicked => .error (.execution (.panicked name))

end Entrypoints

end HookRules
