/-
Patterns of the shell.

A star stands for any text, a question mark for one character and a bracket for
one of some characters. A quoted character stands for itself.
-/
namespace HookRules

namespace Shell

/-- Characters, each with whether it is quoted. -/
abbrev Field := List (Char × Bool)

def Field.text (f : Field) : String := String.ofList (f.map (·.1))

def Field.ofText (s : String) (isQuoted : Bool) : Field := s.toList.map (·, isQuoted)

inductive PatternItem where
  | any
  | one
  | char (c : Char)
  | oneOf (negated : Bool) (ranges : List (Char × Char))

/-- The ranges of a bracket up to its end; `isFirst` while a closing bracket stands
for itself. -/
def bracketRanges : Nat → Bool → Field → Option (List (Char × Char) × Field)
  | 0, _, _ => none
  | _, _, [] => none
  | fuel + 1, isFirst, (c, q) :: rest =>
    if c = ']' ∧ !q ∧ !isFirst then some ([], rest)
    else match rest with
      | ('-', false) :: (d, dq) :: after =>
        if d = ']' ∧ !dq then (bracketRanges fuel false rest).map fun (rs, r) => ((c, c) :: rs, r)
        else (bracketRanges fuel false after).map fun (rs, r) => ((c, d) :: rs, r)
      | _ => (bracketRanges fuel false rest).map fun (rs, r) => ((c, c) :: rs, r)

/-- The items of a pattern; the fuel bounds their number. -/
def patternItems : Nat → Field → List PatternItem
  | 0, _ => []
  | _, [] => []
  | fuel + 1, ('*', false) :: rest => .any :: patternItems fuel rest
  | fuel + 1, ('?', false) :: rest => .one :: patternItems fuel rest
  | fuel + 1, ('[', false) :: rest =>
    let (negated, inner) := match rest with
      | ('!', false) :: inner => (true, inner)
      | ('^', false) :: inner => (true, inner)
      | inner => (false, inner)
    match bracketRanges (inner.length + 1) true inner with
    | some (ranges, rest) => .oneOf negated ranges :: patternItems fuel rest
    | none => .char '[' :: patternItems fuel rest
  | fuel + 1, (c, _) :: rest => .char c :: patternItems fuel rest

def PatternItem.accepts (i : PatternItem) (c : Char) : Bool :=
  match i with
  | .any => true
  | .one => true
  | .char d => c = d
  | .oneOf negated ranges => (ranges.any fun (a, b) => a ≤ c ∧ c ≤ b) != negated

/-- The lists of items that are left after one more character has been read. -/
def advance (states : List (List PatternItem)) (c : Char) : List (List PatternItem) :=
  (states.flatMap expand).filterMap fun
    | .any :: rest => some (.any :: rest)
    | item :: rest => if item.accepts c then some rest else none
    | [] => none
where
  /-- A list of items with those that are left when stars at its front are empty. -/
  expand : List PatternItem → List (List PatternItem)
    | .any :: rest => (.any :: rest) :: expand rest
    | items => [items]

/-- Whether a pattern stands for a whole text. -/
def Field.accepts (pattern : Field) (text : List Char) : Bool :=
  let isDone (items : List PatternItem) : Bool := items.all fun
    | .any => true
    | _ => false
  (text.foldl advance [patternItems pattern.length pattern]).any isDone

/-- Whether a field has a sign that makes it a pattern. -/
def Field.isPattern (f : Field) : Bool :=
  f.any fun (c, q) => !q && (c == '*' || c == '?' || c == '[')

end Shell

end HookRules
