/-
Evaluation with a memory of patterns.

A condition can search for one pattern in many places, and compiling a pattern
costs more than searching for it. An evaluation can therefore keep the regular
expressions that it has compiled and look into this memory before it compiles a
pattern again (`regexFor`). What it has learned in one operand it takes along to
the next one, so its steps depend on what was evaluated before.

Its answers do not. Each entry of a memory comes with the proof that it is what
its pattern compiles to, so a step answers the same from every memory, and that
is the answer of the step without a memory (`Answers`). The relation is kept by
sequencing (`Answers.bind`), and the evaluation with a memory is put together
from its steps in the same way as `eval` is (`evalIn_answers`).
-/
import HookRules.Condition.Eval

namespace HookRules

namespace Condition

-- ======================================================================= memory

/-- A pattern with the regular expression that it compiles to. -/
structure Remembered where
  pattern : String
  regex : Regex
  compiled : Regex.ofText pattern = .ok regex

/-- The regular expressions that were compiled so far. -/
abbrev Memory := List Remembered

/-- A step of an evaluation: it takes a memory and leaves one unless it fails. -/
abbrev Step := StateT Memory (Except EvalError)

/-- The regular expression of a pattern. It is compiled, and remembered, only if
it is not in the memory. -/
def regexFor (pattern : String) : Step Regex := fun memory =>
  match memory.find? (·.pattern = pattern) with
  | some known => .ok (known.regex, memory)
  | none =>
    match h : Regex.ofText pattern with
    | .ok regex => .ok (regex, ⟨pattern, regex, h⟩ :: memory)
    | .error fault => .error (.badRegex pattern fault)

/-- `searches` with a memory. -/
def searchesIn (left right : Json) : Step Bool :=
  match right with
  | .str pattern =>
    match left with
    | .str text => (·.isMatch text) <$> regexFor pattern
    | _ => pure false
  | _ => StateT.lift (.error (.searchPattern (kindOf right)))

/-- `Operator.apply` with a memory. -/
def Operator.applyIn (op : Operator) (left right : Json) : Step Bool :=
  match op with
  | .search => searchesIn left right
  | op => StateT.lift (op.apply left right)

mutual

/-- `eval` with a memory. -/
def evalIn (r : Registry) (ctx : Fields) : Expr → Step Json
  | .literal v => pure v
  | .list items => .arr <$> evalListIn r ctx items
  | .path root steps => pure (resolve ctx root steps)
  | .call name args => do
    let vs ← evalListIn r ctx args
    StateT.lift ((r.call name vs).mapError .call)
  | .not e => (fun v => .bool (!truthy v)) <$> evalIn r ctx e
  | .neg e => do
    match ← evalIn r ctx e with
    | .num n => pure (.num (opposite n))
    | v => StateT.lift (.error (.negate (kindOf v)))
  | .and lhs rhs => do
    let v ← evalIn r ctx lhs
    if truthy v then (fun w => .bool (truthy w)) <$> evalIn r ctx rhs
    else pure (.bool false)
  | .or lhs rhs => do
    let v ← evalIn r ctx lhs
    if truthy v then pure (.bool true)
    else (fun w => .bool (truthy w)) <$> evalIn r ctx rhs
  | .compare op lhs rhs => do
    let v ← evalIn r ctx lhs
    let w ← evalIn r ctx rhs
    .bool <$> op.applyIn v w

/-- `evalList` with a memory. -/
def evalListIn (r : Registry) (ctx : Fields) : List Expr → Step (List Json)
  | [] => pure []
  | e :: es => do
    let v ← evalIn r ctx e
    (v :: ·) <$> evalListIn r ctx es

end

-- ====================================================================== answers

/-- A step answers `x` from whatever memory it starts. -/
def Answers {α : Type} (step : Step α) (x : Except EvalError α) : Prop :=
  ∀ memory, (step memory).map (·.1) = x

namespace Answers

variable {α β : Type} {step : Step α} {x : Except EvalError α}

/-- A step that only gives a value leaves the memory as it is. -/
theorem pure (a : α) : Answers (Pure.pure a) (.ok a) := fun _ => rfl

/-- What does not look for patterns answers as it did. -/
theorem lift (x : Except EvalError α) : Answers (StateT.lift x) x := by
  intro memory
  cases x <;> rfl

/-- Steps in a row answer as the evaluations in a row. The second one starts
from whatever memory the first one left, which is why `Answers` speaks of every
memory. -/
theorem bind {next : α → Step β} {f : α → Except EvalError β}
    (h : Answers step x) (hnext : ∀ a, Answers (next a) (f a)) :
    Answers (step >>= next) (x.bind f) := by
  intro memory
  rw [← h memory]
  show ((step memory).bind fun p => next p.1 p.2).map (·.1) = _
  cases step memory with
  | error cause => rfl
  | ok p => exact hnext p.1 p.2

/-- What is made of an answer does not depend on the memory. -/
theorem map (f : α → β) (h : Answers step x) :
    Answers (f <$> step) (x.map f) := by
  intro memory
  rw [← h memory]
  show ((step memory).bind fun p => .ok (f p.1, p.2)).map (·.1) = _
  cases step memory <;> rfl

end Answers

/-- The regular expression is what the pattern compiles to, remembered or not. -/
theorem regexFor_answers (pattern : String) :
    Answers (regexFor pattern)
      ((Regex.ofText pattern).mapError (.badRegex pattern)) := by
  intro memory
  unfold regexFor
  split
  · next known hknown =>
      have hpattern : known.pattern = pattern :=
        of_decide_eq_true
          (List.find?_some (p := fun k : Remembered => k.pattern = pattern)
            hknown)
      rw [← hpattern, known.compiled]
      rfl
  · split
    · next regex hregex =>
        show Except.ok regex = _
        rw [hregex]
        rfl
    · next fault hregex =>
        show Except.error _ = _
        rw [hregex]
        rfl

/-- A search answers with the remembered expression as with one that was just
compiled. A pattern is compiled only for a text to search in, in both. -/
theorem searchesIn_answers (left right : Json) :
    Answers (searchesIn left right) (searches left right) := by
  cases right with
  | str pattern =>
      cases left with
      | str text =>
          have hsearch : searches (.str text) (.str pattern)
              = ((Regex.ofText pattern).mapError (.badRegex pattern)).map
                (·.isMatch text) := by
            unfold searches
            dsimp only
            cases Regex.ofText pattern <;> rfl
          rw [hsearch]
          exact (regexFor_answers pattern).map _
      | _ => exact .pure false
  | _ => exact .lift _

/-- Of the operators only the search knows the memory. -/
theorem Operator.applyIn_answers (op : Operator) (left right : Json) :
    Answers (op.applyIn left right) (op.apply left right) := by
  cases op with
  | search => exact searchesIn_answers left right
  | _ => exact .lift _

section

variable {r : Registry} {ctx : Fields}

mutual

/-- An evaluation with a memory answers as the one without, whatever is
remembered when it starts. -/
theorem evalIn_answers (e : Expr) :
    Answers (evalIn r ctx e) (eval r ctx e) := by
  cases e with
  | literal v => exact .pure v
  | path root steps => exact .pure _
  | list items =>
      rw [evalIn, eval]
      exact (evalListIn_answers items).map _
  | call name args =>
      rw [evalIn, eval]
      exact (evalListIn_answers args).bind fun vs => .lift _
  | not e =>
      rw [evalIn, eval]
      exact (evalIn_answers e).map _
  | neg e =>
      rw [evalIn, eval]
      refine (evalIn_answers e).bind fun v => ?_
      cases v with
      | num n => exact .pure _
      | _ => exact .lift _
  | and lhs rhs =>
      rw [evalIn, eval]
      refine (evalIn_answers lhs).bind fun v => ?_
      split
      · exact (evalIn_answers rhs).map _
      · exact .pure _
  | or lhs rhs =>
      rw [evalIn, eval]
      refine (evalIn_answers lhs).bind fun v => ?_
      split
      · exact .pure _
      · exact (evalIn_answers rhs).map _
  | compare op lhs rhs =>
      rw [evalIn, eval]
      refine (evalIn_answers lhs).bind fun v => ?_
      refine (evalIn_answers rhs).bind fun w => ?_
      exact (op.applyIn_answers v w).map _

/-- The same for a list, whose items hand the memory on from left to right. -/
theorem evalListIn_answers (es : List Expr) :
    Answers (evalListIn r ctx es) (evalList r ctx es) := by
  cases es with
  | nil => exact .pure []
  | cons e es =>
      rw [evalListIn, evalList]
      refine (evalIn_answers e).bind fun v => ?_
      exact (evalListIn_answers es).map _

end

end

end Condition

end HookRules
