/-
Conditions as trees.

A condition is built from literals, lists, paths into the evaluation context,
calls of catalog functions, negations, comparisons and the two connectives.
-/
import HookRules.Json.Basic

namespace HookRules

namespace Condition

/-- The operators between two operands. -/
inductive Operator where
  | eq | ne | lt | le | gt | ge
  /-- Membership. -/
  | mem
  | notMem
  /-- Regular expression search. -/
  | search
  /-- Glob match of the whole text. -/
  | glob
deriving DecidableEq

/-- One step of a path: the field of an object or the place of a list, counted
from the end if negative. -/
inductive Segment where
  | key (name : String)
  | index (i : Int)
deriving DecidableEq

inductive Expr where
  | literal (value : Json)
  | list (items : List Expr)
  | path (root : String) (segments : List Segment)
  | call (name : String) (args : List Expr)
  | not (e : Expr)
  | neg (e : Expr)
  | and (lhs rhs : Expr)
  | or (lhs rhs : Expr)
  | compare (op : Operator) (lhs rhs : Expr)
deriving Inhabited

/-- A name that a condition uses: the root of a path or a function. -/
inductive Symbol where
  | variable (name : String)
  | function (name : String)
deriving DecidableEq

mutual

/-- The names that a condition uses, in the order in which they are written. -/
def Expr.symbols : Expr → List Symbol
  | .literal _ => []
  | .list items => Expr.symbolsOf items
  | .path root _ => [.variable root]
  | .call name args => .function name :: Expr.symbolsOf args
  | .not e => e.symbols
  | .neg e => e.symbols
  | .and lhs rhs => lhs.symbols ++ rhs.symbols
  | .or lhs rhs => lhs.symbols ++ rhs.symbols
  | .compare _ lhs rhs => lhs.symbols ++ rhs.symbols

def Expr.symbolsOf : List Expr → List Symbol
  | [] => []
  | e :: es => e.symbols ++ Expr.symbolsOf es

end

end Condition

end HookRules
