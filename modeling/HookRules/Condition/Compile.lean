/-
Compiled conditions.

A blank text always matches. Any other text is compiled to a tree whose
variables are context fields and whose functions are in the catalog; the first
name that is unknown is reported. What is compiled can fail only when it is
evaluated, and never for an unknown name.
-/
import HookRules.Condition.Eval
import HookRules.Condition.Parser

namespace HookRules

namespace Condition

/-- What can be wrong with a condition. -/
inductive Cause where
  | syntaxError (e : SyntaxError)
  | unknownFunction (name : String)
  | unknownVariable (name : String)
  | evaluation (e : EvalError)
deriving DecidableEq

def Cause.message : Cause → String
  | .syntaxError e =>
    "syntax error at position " ++ Nat.repr e.position ++ ": " ++ e.fault.message
  | .unknownFunction name => "unknown function '" ++ name ++ "'"
  | .unknownVariable name => "unknown variable '" ++ name ++ "'"
  | .evaluation e => "evaluation failed: " ++ e.message

/-- The name of a cause in reports. -/
def Cause.name : Cause → String
  | .syntaxError _ => "syntax"
  | .unknownFunction _ => "unknown_function"
  | .unknownVariable _ => "unknown_variable"
  | .evaluation _ => "evaluation"

/-- Whether a cause is found before evaluation. -/
def Cause.isCompileTime : Cause → Bool
  | .evaluation _ => false
  | _ => true

end Condition

/-- A condition that is wrong, with its text. -/
structure ConditionError where
  source : String
  cause : Condition.Cause
deriving DecidableEq

def ConditionError.message (e : ConditionError) : String :=
  "Invalid expression '" ++ e.source ++ "': " ++ e.cause.message

/-- A condition that can be evaluated. Without a tree it always matches. -/
structure Condition where
  source : String
  program : Option Condition.Expr

namespace Condition

/-- What is wrong with a name, if it is unknown. -/
def Symbol.problem? : Symbol → Option Cause
  | .variable name => if Context.fieldNames.contains name then none else some (.unknownVariable name)
  | .function name =>
    if (Builtin.ofName? name).isSome then none else some (.unknownFunction name)

/-- Compiles the text of a condition. -/
def compile (source : String) : Except ConditionError Condition :=
  if Text.isBlankText source then .ok ⟨source, none⟩
  else
    match parse source with
    | .error e => .error ⟨source, .syntaxError e⟩
    | .ok e =>
      match e.symbols.findSome? Symbol.problem? with
      | some cause => .error ⟨source, cause⟩
      | none => .ok ⟨source, some e⟩

/-- Whether a condition always matches. -/
def alwaysMatches (c : Condition) : Bool := c.program.isNone

/-- Whether a condition holds in a context. -/
def holds (c : Condition) (r : Registry) (ctx : Fields) : Except ConditionError Bool :=
  match c.program with
  | none => .ok true
  | some e =>
    match eval r ctx e with
    | .ok v => .ok (truthy v)
    | .error cause => .error ⟨c.source, .evaluation cause⟩

-- ============================================================ reports

/-- The result of checking one condition by itself. -/
structure Report where
  source : String
  alwaysMatches : Bool
  error : Option Cause
deriving DecidableEq

/-- Checks the text of a condition. -/
def validate (source : String) : Report where
  source := source
  alwaysMatches := Text.isBlankText source
  error := match compile source with
    | .ok _ => none
    | .error e => some e.cause

/-- Whether the condition was found to be right. -/
def Report.isValid (r : Report) : Bool := r.error.isNone

/-- The report as an object: what is wrong is left out if nothing is, and so is
a position that there is not. -/
def Report.toJson (r : Report) : Json :=
  let position := match r.error with
    | some (.syntaxError e) => [("position", Json.ofInt e.position)]
    | _ => []
  let error := match r.error with
    | some cause => [("error_kind", .str cause.name), ("error", .str cause.message)]
    | none => []
  .ofFields ([("expression", .str r.source), ("valid", .bool r.isValid),
    ("always_matches", .bool r.alwaysMatches)] ++ error ++ position)

end Condition

end HookRules
