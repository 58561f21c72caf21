/-
Reading conditions.

Precedence, loosest first: `or`, `and`, `not`, one comparison, unary minus,
terms. `or` and `and` group to the left; comparisons do not chain.

# Nesting

The whole condition, each group, list item, call argument, `not`, `!` and
unary minus opens a level. `Level` holds the three readers that open one, and
`level n` those that may open `n` levels inside one another: `level 0` refuses
everything, and `level (n + 1)` is built over `level n`. The recursion of the
grammar is the recursion on that number, and what is left are plain loops over
the tokens.
-/
import HookRules.Condition.Expr
import HookRules.Condition.Lexer

namespace HookRules

namespace Condition

namespace Parser

/-- A reader takes what it can from the front of the tokens. -/
abbrev Reader (α : Type) := List Token → Except SyntaxError (α × List Token)

variable (finish : Nat)

-- ============================================================ errors

/-- The place of the next token, or the end of the text. -/
def placeOf : List Token → Nat
  | [] => finish
  | t :: _ => t.position

/-- Something else was wanted where these tokens start. -/
def wanting (w : Wanted) (ts : List Token) : SyntaxError :=
  ⟨.expected w (ts.head?.map (·.lexeme)), placeOf finish ts⟩

/-- One given lexeme. -/
def expect (l : Lexeme) (w : Wanted) : List Token → Except SyntaxError (List Token)
  | t :: ts => if t.lexeme = l then .ok ts else .error (wanting finish w (t :: ts))
  | [] => .error (wanting finish w [])

-- ============================================================= words

/-- The literals that are words. -/
def literal? : String → Option Json
  | "true" | "True" => some (.bool true)
  | "false" | "False" => some (.bool false)
  | "null" | "none" | "None" => some .null
  | _ => none

/-- The words that stand for operators. -/
def isKeyword (name : String) : Bool :=
  name == "and" || name == "or" || name == "not" || name == "in" || name == "matches"

/-- Whether a lexeme is the connective `or`. -/
def isOr (l : Lexeme) : Bool := l == .or || l == .word "or"

/-- Whether a lexeme is the connective `and`. -/
def isAnd (l : Lexeme) : Bool := l == .and || l == .word "and"

/-- Whether a lexeme negates what follows it. -/
def isNot (l : Lexeme) : Bool := l == .bang || l == .word "not"

-- ============================================================= paths

/-- The steps of a path after its root. -/
def segments : Reader (List Segment)
  | ⟨.dot, _⟩ :: ⟨.word name, _⟩ :: ts => do
    let (rest, ts) ← segments ts
    return (.key name :: rest, ts)
  | ⟨.dot, _⟩ :: ⟨.num (.int i), _⟩ :: ts => do
    let (rest, ts) ← segments ts
    return (.index i :: rest, ts)
  | ⟨.dot, _⟩ :: ts => .error (wanting finish .fieldName ts)
  | ⟨.openBracket, _⟩ :: ⟨.str name, _⟩ :: ⟨.closeBracket, _⟩ :: ts => do
    let (rest, ts) ← segments ts
    return (.key name :: rest, ts)
  | ⟨.openBracket, _⟩ :: ⟨.num (.int i), _⟩ :: ⟨.closeBracket, _⟩ :: ts => do
    let (rest, ts) ← segments ts
    return (.index i :: rest, ts)
  | ⟨.openBracket, _⟩ :: ⟨.minus, _⟩ :: ⟨.num (.int i), _⟩ :: ⟨.closeBracket, _⟩ :: ts => do
    let (rest, ts) ← segments ts
    return (.index (-i) :: rest, ts)
  | ⟨.openBracket, _⟩ :: ⟨.str _, _⟩ :: ts
  | ⟨.openBracket, _⟩ :: ⟨.num (.int _), _⟩ :: ts
  | ⟨.openBracket, _⟩ :: ⟨.minus, _⟩ :: ⟨.num (.int _), _⟩ :: ts =>
    .error (wanting finish .closeBracket ts)
  | ⟨.openBracket, _⟩ :: ⟨.minus, _⟩ :: ts
  | ⟨.openBracket, _⟩ :: ts => .error (wanting finish .keyOrIndex ts)
  | ts => .ok ([], ts)

-- ============================================================= loops

/-- Items after the first, each after a comma, up to the closing lexeme. The
fuel bounds their number. -/
def moreItems (item : Reader Expr) (close : Lexeme) (w : Wanted) : Nat → Reader (List Expr)
  | fuel + 1, ⟨.comma, _⟩ :: ts => do
    let (e, ts) ← item ts
    let (es, ts) ← moreItems item close w fuel ts
    return (e :: es, ts)
  | _, ts => do
    let ts ← expect finish close w ts
    return ([], ts)

/-- Comma-separated items up to the closing lexeme, the opening one being
consumed. -/
def items (item : Reader Expr) (close : Lexeme) (w : Wanted) : Reader (List Expr)
  | ts =>
    if ts.head?.map (·.lexeme) = some close then .ok ([], ts.drop 1)
    else do
      let (e, ts) ← item ts
      let (es, ts) ← moreItems finish item close w ts.length ts
      return (e :: es, ts)

/-- Further operands of a connective, joined to the left. The fuel bounds
their number. -/
def joined (operand : Reader Expr) (isJoint : Lexeme → Bool) (join : Expr → Expr → Expr) :
    Nat → Expr → Reader Expr
  | fuel + 1, lhs, t :: ts =>
    if isJoint t.lexeme then do
      let (rhs, ts) ← operand ts
      joined operand isJoint join fuel (join lhs rhs) ts
    else .ok (lhs, t :: ts)
  | _, lhs, ts => .ok (lhs, ts)

/-- Operands of a connective, joined to the left. -/
def chain (operand : Reader Expr) (isJoint : Lexeme → Bool) (join : Expr → Expr → Expr) :
    Reader Expr := fun ts => do
  let (lhs, ts) ← operand ts
  joined operand isJoint join ts.length lhs ts

-- ============================================================ levels

/-- The readers that open a level of nesting. -/
structure Level where
  /-- A whole condition, group, list item or argument. -/
  whole : Reader Expr
  /-- What `not` applies to. -/
  negated : Reader Expr
  /-- What unary minus applies to. -/
  opposite : Reader Expr

/-- A reader that may not open a level. -/
def refuse : Reader Expr := fun ts => .error ⟨.tooDeep, placeOf finish ts⟩

/-- The arguments of a call, from the opening parenthesis on. -/
def arguments (inner : Level) : Reader (List Expr) := fun ts => do
  let ts ← expect finish .openParen .openParen ts
  items finish inner.whole .closeParen .closeParen ts

def term (inner : Level) : Reader Expr
  | [] => .error (wanting finish .value [])
  | ⟨.str s, _⟩ :: ts => .ok (.literal (.str s), ts)
  | ⟨.num n, _⟩ :: ts => .ok (.literal (.num n), ts)
  | ⟨.openParen, _⟩ :: ts => do
    let (e, ts) ← inner.whole ts
    let ts ← expect finish .closeParen .closeParen ts
    return (e, ts)
  | ⟨.openBracket, _⟩ :: ts => do
    let (es, ts) ← items finish inner.whole .closeBracket .closeBracket ts
    return (.list es, ts)
  | ⟨.dollar, _⟩ :: ⟨.word name, _⟩ :: ts => do
    let (args, ts) ← arguments finish inner ts
    return (.call name args, ts)
  | ⟨.dollar, position⟩ :: _ => .error ⟨.noFunctionName, position⟩
  | ⟨.word name, position⟩ :: ts =>
    match literal? name with
    | some v => .ok (.literal v, ts)
    | none =>
      if isKeyword name then .error ⟨.keyword name, position⟩
      else if ts.head?.map (·.lexeme) = some .openParen then do
        let (args, ts) ← arguments finish inner ts
        return (.call name args, ts)
      else do
        let (steps, ts) ← segments finish ts
        return (.path name steps, ts)
  | ⟨l, position⟩ :: _ => .error ⟨.expected .value (some l), position⟩

def unary (inner : Level) : Reader Expr
  | ⟨.minus, _⟩ :: ts => do
    let (e, ts) ← inner.opposite ts
    return (.neg e, ts)
  | ts => term finish inner ts

/-- The comparison operator at the front of the tokens. -/
def operator? : List Token → Option (Operator × List Token)
  | ⟨.eq, _⟩ :: ts => some (.eq, ts)
  | ⟨.ne, _⟩ :: ts => some (.ne, ts)
  | ⟨.lt, _⟩ :: ts => some (.lt, ts)
  | ⟨.le, _⟩ :: ts => some (.le, ts)
  | ⟨.gt, _⟩ :: ts => some (.gt, ts)
  | ⟨.ge, _⟩ :: ts => some (.ge, ts)
  | ⟨.search, _⟩ :: ts => some (.search, ts)
  | ⟨.word "in", _⟩ :: ts => some (.mem, ts)
  | ⟨.word "matches", _⟩ :: ts => some (.glob, ts)
  | ⟨.word "not", _⟩ :: ⟨.word "in", _⟩ :: ts => some (.notMem, ts)
  | _ => none

def comparison (inner : Level) : Reader Expr := fun ts => do
  let (lhs, ts) ← unary finish inner ts
  match operator? ts with
  | none => return (lhs, ts)
  | some (op, ts) =>
    let (rhs, ts) ← unary finish inner ts
    return (.compare op lhs rhs, ts)

def negation (inner : Level) : Reader Expr
  | t :: ts =>
    if isNot t.lexeme then do
      let (e, ts) ← inner.negated ts
      return (.not e, ts)
    else comparison finish inner (t :: ts)
  | [] => comparison finish inner []

def conjunction (inner : Level) : Reader Expr := chain (negation finish inner) isAnd .and

def disjunction (inner : Level) : Reader Expr := chain (conjunction finish inner) isOr .or

/-- The readers that may open `n` levels inside one another. -/
def level : Nat → Level
  | 0 => ⟨refuse finish, refuse finish, refuse finish⟩
  | n + 1 =>
    let inner := level n
    ⟨disjunction finish inner, negation finish inner, unary finish inner⟩

end Parser

/-- The tree of a condition, the tokens being used up. -/
def parseTokens (finish : Nat) (ts : List Token) : Except SyntaxError Expr := do
  let (e, rest) ← (Parser.level finish maxNesting).whole ts
  match rest with
  | [] => return e
  | t :: _ => .error ⟨.leftover t.lexeme, t.position⟩

/-- The tree of the text of a condition. -/
def parse (source : String) : Except SyntaxError Expr := do
  parseTokens source.utf8ByteSize (← tokenize source)

end Condition

end HookRules
