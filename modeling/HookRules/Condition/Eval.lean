/-
Evaluating conditions.

An expression has a value in a context and a registry, or fails for one of the
causes of `EvalError`. Operands are evaluated from left to right and the first
failure counts; `and` and `or` leave out the right operand when the left one
decides.
-/
import HookRules.Condition.Compare
import HookRules.Condition.Expr
import HookRules.Function.Registry

namespace HookRules

namespace Condition

-- ============================================================ causes

/-- Why an expression has no value. -/
inductive EvalError where
  | negate (kind : Kind)
  | order (left right : Kind)
  | textNeedle (left : Kind)
  | container (right : Kind)
  | searchPattern (right : Kind)
  | globPattern (right : Kind)
  | badRegex (pattern : String) (fault : Regex.Fault)
  | badGlob (pattern : String) (fault : Glob.Fault)
  | call (cause : CallError)
deriving DecidableEq

def EvalError.message : EvalError → String
  | .negate k => "cannot negate " ++ k.name
  | .order l r => "cannot order " ++ l.name ++ " and " ++ r.name
  | .textNeedle l => "'in <string>' requires a string on the left, got " ++ l.name
  | .container r => "'in' needs a string, list or object, got " ++ r.name
  | .searchPattern r => "right side of '=~' must be a string, got " ++ r.name
  | .globPattern r => "right side of 'matches' must be a string, got " ++ r.name
  | .badRegex p f => "invalid regex '" ++ p ++ "': " ++ f.message
  | .badGlob p f => "invalid glob '" ++ p ++ "': " ++ f.message
  | .call cause => cause.message

-- ============================================================= paths

/-- The place that an index means in a list; negative ones count from the end. -/
def place? (length : Nat) (i : Int) : Option Nat :=
  let j := if i < 0 then length + i else i
  if 0 ≤ j then some j.toNat else none

/-- One step of a path. -/
def step? : Segment → Json → Option Json
  | .key name, .obj fs => Fields.get? fs name
  | .index i, .arr items => (place? items.length i).bind fun n => items[n]?
  | _, _ => none

/-- The value of a path; a step that leads nowhere gives null. -/
def resolve (ctx : Fields) (root : String) (steps : List Segment) : Json :=
  ((Fields.get? ctx root).bind fun v => steps.foldlM (fun v s => step? s v) v).getD .null

-- ========================================================= operators

/-- The opposite of a number. The least 64-bit integer and the integers above
the 64-bit ones with a sign become fractions. -/
def opposite (n : Number) : Number :=
  match n.int64? with
  | some i => if i = -(Nat.pow 2 63 : Int) then .float (-n.toBinary64) else .int (-i)
  | none => .float (-n.toBinary64)

/-- Whether one text stands inside another. -/
def isInside (needle : List Char) : List Char → Bool
  | [] => needle.isEmpty
  | c :: cs => needle.isPrefixOf (c :: cs) || isInside needle cs

/-- Membership of the left value in the right one. -/
def member (needle container : Json) : Except EvalError Bool :=
  match container with
  | .null => .ok false
  | .str s =>
    match needle with
    | .str t => .ok (isInside t.toList s.toList)
    | _ => .error (.textNeedle (kindOf needle))
  | .arr items => .ok (items.any fun v => valuesEqual v needle)
  | .obj fs =>
    match needle with
    | .str t => .ok (Fields.get? fs t).isSome
    | _ => .ok false
  | _ => .error (.container (kindOf container))

/-- An order comparison by what it accepts. -/
def ordered (left right : Json) (accept : Ordering → Bool) : Except EvalError Bool :=
  match order? left right with
  | some o => .ok (accept o)
  | none => .error (.order (kindOf left) (kindOf right))

/-- Whether a pattern is found in a text; what is no text is not searched. -/
def searches (left right : Json) : Except EvalError Bool :=
  match right with
  | .str pattern =>
    match left with
    | .str text =>
      match Regex.ofText pattern with
      | .ok r => .ok (r.isMatch text)
      | .error f => .error (.badRegex pattern f)
    | _ => .ok false
  | _ => .error (.searchPattern (kindOf right))

/-- Whether a whole text matches a glob; what is no text is not matched. -/
def globMatches (left right : Json) : Except EvalError Bool :=
  match right with
  | .str pattern =>
    match left with
    | .str text =>
      match Glob.ofText pattern with
      | .ok g => .ok (g.accepts text)
      | .error f => .error (.badGlob pattern f)
    | _ => .ok false
  | _ => .error (.globPattern (kindOf right))

/-- The answer of an operator to its two values. -/
def Operator.apply (op : Operator) (left right : Json) : Except EvalError Bool :=
  match op with
  | .eq => .ok (valuesEqual left right)
  | .ne => .ok (!valuesEqual left right)
  | .lt => ordered left right (· == .lt)
  | .le => ordered left right (· != .gt)
  | .gt => ordered left right (· == .gt)
  | .ge => ordered left right (· != .lt)
  | .mem => member left right
  | .notMem => (member left right).map (!·)
  | .search => searches left right
  | .glob => globMatches left right

-- ======================================================== evaluation

mutual

/-- The value of an expression. -/
def eval (r : Registry) (ctx : Fields) : Expr → Except EvalError Json
  | .literal v => .ok v
  | .list items => (evalList r ctx items).map .arr
  | .path root steps => .ok (resolve ctx root steps)
  | .call name args =>
    (evalList r ctx args).bind fun vs => (r.call name vs).mapError .call
  | .not e => (eval r ctx e).map fun v => .bool (!truthy v)
  | .neg e => (eval r ctx e).bind fun v =>
    match v with
    | .num n => .ok (.num (opposite n))
    | v => .error (.negate (kindOf v))
  | .and lhs rhs => (eval r ctx lhs).bind fun v =>
    if truthy v then (eval r ctx rhs).map fun w => .bool (truthy w) else .ok (.bool false)
  | .or lhs rhs => (eval r ctx lhs).bind fun v =>
    if truthy v then .ok (.bool true) else (eval r ctx rhs).map fun w => .bool (truthy w)
  | .compare op lhs rhs => (eval r ctx lhs).bind fun v =>
    (eval r ctx rhs).bind fun w => (op.apply v w).map .bool

/-- The values of expressions, from left to right. -/
def evalList (r : Registry) (ctx : Fields) : List Expr → Except EvalError (List Json)
  | [] => .ok []
  | e :: es => (eval r ctx e).bind fun v => (evalList r ctx es).map (v :: ·)

end

end Condition

end HookRules
