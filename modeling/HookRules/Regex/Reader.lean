/-
Reading patterns.

Groups that are open are kept on a stack with what stood before them; what is
read goes to the innermost one. A flag group without a body switches flags up
to the end of the group that it stands in. A repetition takes the item before
it and is refused where there is none. Look-around and references to groups do
not exist.
-/
import HookRules.Regex.Bracket
import HookRules.Text.Letter

namespace HookRules

namespace Regex

namespace Reader

-- ============================================================= state

/-- What an open group is. -/
inductive GroupKind where
  | plain
  | capture (index : Nat)

/-- The alternatives and items read so far, the last first. An item is `none`
where flags were switched: a repetition cannot follow it. -/
structure Body where
  alternatives : List Node
  items : List (Option Node)

/-- A group that is open: what stood before it, and the flags to return to. -/
structure Frame where
  kind : GroupKind
  outer : Body
  flags : Flags

structure State where
  flags : Flags
  body : Body
  frames : List Frame
  groups : Nat
  names : List (String × Nat)

/-- One after the other. -/
def sequence : List Node → Node
  | [] => .empty
  | [n] => n
  | n :: ns => .cat n (sequence ns)

/-- One or the other. -/
def choice : List Node → Node
  | [] => .empty
  | [n] => n
  | n :: ns => .alt n (choice ns)

/-- The items since the last bar, as one node. -/
def Body.last (b : Body) : Node := sequence (b.items.reverse.filterMap id)

/-- Everything that was read, as one node. -/
def Body.node (b : Body) : Node := choice ((b.last :: b.alternatives).reverse)

def Body.empty : Body := ⟨[], []⟩

def State.push (st : State) (item : Option Node) : State :=
  { st with body := { st.body with items := item :: st.body.items } }

-- ============================================================= flags

/-- Sets one flag. -/
def setFlag? (flags : Flags) (on : Bool) : Char → Option Flags
  | 'i' => some { flags with ignoreCase := on }
  | 'm' => some { flags with multiLine := on }
  | 's' => some { flags with dotAll := on }
  | 'U' => some { flags with swapGreed := on }
  | 'u' => some { flags with unicode := on }
  | 'R' => some { flags with crlf := on }
  | 'x' => some { flags with verbose := on }
  | _ => none

/-- The letters of a flag group up to its colon or closing parenthesis, which
is left standing. A letter may stand once only, and so may the minus sign,
which a letter has to follow. -/
def flagLetters? (flags : Flags) (seen : List Char) (afterMinus : Bool) :
    List Char → Option (Flags × List Char)
  | [] => none
  | ':' :: rest => if afterMinus then none else some (flags, ':' :: rest)
  | ')' :: rest => if afterMinus then none else some (flags, ')' :: rest)
  | c :: rest =>
    if seen.contains c then none
    else if c == '-' then flagLetters? flags (c :: seen) true rest
    else match setFlag? flags (!seen.contains '-') c with
      | none => none
      | some flags => flagLetters? flags (c :: seen) false rest

-- ============================================================ groups

/-- A group name up to its closing angle bracket. -/
def groupName? (cs : List Char) : Option (String × List Char) :=
  match cs.span (· != '>') with
  | (c :: name, _ :: rest) =>
    let first := c == '_' || Text.isLetter c
    let others := name.all fun c =>
      c == '_' || c == '.' || c == '[' || c == ']' || Text.isLetterOrNumber c
    if first && others then some (String.ofList (c :: name), rest) else none
  | _ => none

def State.openGroup (st : State) (kind : GroupKind) (flags : Flags) : State :=
  { st with frames := ⟨kind, st.body, st.flags⟩ :: st.frames, body := .empty, flags := flags }

/-- A capture group, named or not. -/
def State.openCapture (st : State) (name : Option String) : Option State :=
  let index := st.groups + 1
  let st' := { st with groups := index }
  match name with
  | none => some (st'.openGroup (.capture index) st.flags)
  | some name =>
    if st.names.any (·.1 == name) then none
    else some (({ st' with names := (name, index) :: st.names }).openGroup (.capture index) st.flags)

/-- What an opening parenthesis starts. -/
def State.paren? (st : State) (cs : List Char) : Option (State × List Char) :=
  match skip st.flags cs with
  | '?' :: '=' :: _ => none
  | '?' :: '!' :: _ => none
  | '?' :: '<' :: '=' :: _ => none
  | '?' :: '<' :: '!' :: _ => none
  | '?' :: 'P' :: '<' :: rest => do
    let (name, rest) ← groupName? rest
    return (← st.openCapture (some name), rest)
  | '?' :: '<' :: rest => do
    let (name, rest) ← groupName? rest
    return (← st.openCapture (some name), rest)
  | '?' :: ')' :: _ => none
  | '?' :: rest => do
    let (flags, rest) ← flagLetters? st.flags [] false rest
    match rest with
    | ':' :: rest => return (st.openGroup .plain flags, rest)
    | _ => return ({ st with flags := flags }.push none, rest.drop 1)
  | rest => do
    return (← st.openCapture none, rest)

/-- The innermost group ends. -/
def State.close? (st : State) : Option State :=
  match st.frames with
  | [] => none
  | f :: frames =>
    let inner := st.body.node
    -- a group is one item, whatever it holds
    let node := match f.kind with
      | .plain => inner
      | .capture index => .group index inner
    some ({ st with body := f.outer, flags := f.flags, frames := frames }.push (some node))

-- ======================================================= repetitions

/-- A repetition of the last item. `lazy` is whether a question mark follows. -/
def State.repeat? (st : State) (least : Nat) (most : Option Nat) (lazy : Bool) : Option State :=
  match st.body.items with
  | some n :: items =>
    let greedy := lazy == st.flags.swapGreed
    some { st with body := { st.body with items := some (.rep n least most greedy) :: items } }
  | _ => none

/-- A decimal number with blanks around it, below 2^32. -/
def count? (cs : List Char) : Option (Option Nat × List Char) :=
  let (digits, rest) := (cs.dropWhile Text.isBlank).span Char.isDigit
  let rest := rest.dropWhile Text.isBlank
  if digits.isEmpty then some (none, rest)
  else
    let n := digits.foldl (fun n c => 10 * n + (c.toNat - '0'.toNat)) 0
    if n < Nat.pow 2 32 then some (some n, rest) else none

/-- The bounds of a counted repetition after its opening brace. -/
def bounds? (flags : Flags) (cs : List Char) : Option (Nat × Option Nat × List Char) := do
  let (least, rest) ← count? (skip flags cs)
  let least ← least
  match rest with
  | '}' :: rest => return (least, some least, rest)
  | ',' :: rest =>
    match skip flags rest with
    | '}' :: rest => return (least, none, rest)
    | rest =>
      let (most, rest) ← count? rest
      let most ← most
      match rest with
      | '}' :: rest => if least ≤ most then return (least, some most, rest) else none
      | _ => none
  | _ => none

/-- Whether a question mark follows a repetition, and what comes after it. -/
def lazyMark : List Char → Bool × List Char
  | '?' :: rest => (true, rest)
  | rest => (false, rest)

-- ============================================================= items

/-- A character of the pattern that stands for itself. -/
def charNode (flags : Flags) (c : Char) : Node :=
  .set (foldIf flags (.single c))

/-- The set of the dot; in a pattern about bytes it would not be text. -/
def dot? (flags : Flags) : Option Node :=
  if !flags.unicode then none
  else if flags.dotAll then some (.set .anything)
  else if flags.crlf then some (.set (.compl (.union (.single '\n') (.single '\r'))))
  else some (.set (.compl (.single '\n')))

def startLook (flags : Flags) : Look :=
  if !flags.multiLine then .textStart else if flags.crlf then .anyLineStart else .lineStart

def endLook (flags : Flags) : Look :=
  if !flags.multiLine then .textEnd else if flags.crlf then .anyLineEnd else .lineEnd

/-- The node of an escape. -/
def escapeNode? (flags : Flags) : Escape → Option Node
  | .char c => some (charNode flags c)
  | .byte => none
  | .set s => (checkedSet? flags s).map .set
  | .look l => some (.look l)

/-- The state after one item at the front of the text. -/
def State.step? (st : State) : List Char → Option (State × List Char)
  | [] => none
  | '(' :: rest => st.paren? rest
  | ')' :: rest => st.close?.map (·, rest)
  | '|' :: rest =>
    some ({ st with body := ⟨st.body.last :: st.body.alternatives, []⟩ }, rest)
  | '[' :: rest => do
    let (s, rest) ← bracket? st.flags rest
    return (st.push (some (.set s)), rest)
  | '?' :: rest => do
    let (lazy, rest) := lazyMark rest
    return (← st.repeat? 0 (some 1) lazy, rest)
  | '*' :: rest => do
    let (lazy, rest) := lazyMark rest
    return (← st.repeat? 0 none lazy, rest)
  | '+' :: rest => do
    let (lazy, rest) := lazyMark rest
    return (← st.repeat? 1 none lazy, rest)
  | '{' :: rest => do
    let (least, most, rest) ← bounds? st.flags rest
    let (lazy, rest) := lazyMark (skip st.flags rest)
    return (← st.repeat? least most lazy, rest)
  | '\\' :: rest => do
    let (e, rest) ← escape? st.flags rest
    return (st.push (some (← escapeNode? st.flags e)), rest)
  | '.' :: rest => do return (st.push (some (← dot? st.flags)), rest)
  | '^' :: rest => some (st.push (some (.look (startLook st.flags))), rest)
  | '$' :: rest => some (st.push (some (.look (endLook st.flags))), rest)
  | c :: rest => some (st.push (some (charNode st.flags c)), rest)

/-- Reads to the end of the text; the fuel bounds the number of items. -/
def State.run : Nat → State → List Char → Option State
  | fuel, st, cs =>
    match skip st.flags cs, fuel with
    | [], _ => some st
    | _, 0 => none
    | cs, fuel + 1 =>
      match st.step? cs with
      | none => none
      | some (st, rest) => State.run fuel st rest

end Reader

/-- The pattern of a text, if the text is one. -/
def Pattern.ofText? (text : String) : Option Pattern := do
  let cs := text.toList
  let st ← Reader.State.run cs.length
    { flags := {}, body := .empty, frames := [], groups := 0, names := [] } cs
  if st.frames.isEmpty then some ⟨st.body.node, st.groups, st.names⟩ else none

end Regex

end HookRules
