/-
Replacing matches.

Matches are taken from left to right and do not overlap; an empty match right
after a match is passed over. In the replacement `$1`, `$name` and the same in
braces stand for groups of the match, a group that took no part being empty,
and `$$` for a dollar sign. A name without braces runs as far as it can.
-/
import HookRules.Regex.Search

namespace HookRules

namespace Regex

/-- A part of a replacement. -/
inductive Template where
  | char (c : Char)
  | group (index : Nat)
  | named (name : String)

/-- A group name that is a number is the number of a group. -/
def Template.ofName (name : List Char) : Template :=
  if !name.isEmpty && name.all Char.isDigit then
    .group (name.foldl (fun n c => 10 * n + (c.toNat - '0'.toNat)) 0)
  else .named (String.ofList name)

/-- The parts of a replacement; the fuel bounds their number. -/
def templateWith : Nat → List Char → List Template
  | 0, _ => []
  | _, [] => []
  | fuel + 1, '$' :: '$' :: rest => .char '$' :: templateWith fuel rest
  | fuel + 1, '$' :: '\x7b' :: rest =>
    match rest.span (· != '\x7d') with
    | (name, _ :: after) => .ofName name :: templateWith fuel after
    | (_, []) => .char '$' :: templateWith fuel ('\x7b' :: rest)
  | fuel + 1, '$' :: rest =>
    match rest.span fun c => c.isAlphanum || c == '_' with
    | ([], _) => .char '$' :: templateWith fuel rest
    | (name, after) => .ofName name :: templateWith fuel after
  | fuel + 1, c :: rest => .char c :: templateWith fuel rest

def template (replacement : String) : List Template :=
  templateWith replacement.toList.length replacement.toList

/-- The characters between two places. -/
def slice (text : Array Char) (first last : Nat) : List Char :=
  (text.extract first last).toList

/-- The text of a group of a match. -/
def groupText (text : Array Char) (slots : Slots) (index : Nat) : List Char :=
  match slots.getD (2 * index) none, slots.getD (2 * index + 1) none with
  | some first, some last => slice text first last
  | _, _ => []

/-- What a part of a replacement stands for in a match. -/
def Template.chars (r : Regex) (text : Array Char) (slots : Slots) : Template → List Char
  | .char c => [c]
  | .group index => groupText text slots index
  | .named name =>
    match r.names.lookup name with
    | some index => groupText text slots index
    | none => []

/-- The first match from `place` on that is not an empty one at `lastEnd`. -/
def nextMatch? (r : Regex) (text : Array Char) (place : Nat) (lastEnd : Option Nat) :
    Option (Nat × Nat × Slots) :=
  let ends (slots : Slots) : Option (Nat × Nat × Slots) := do
    return (← slots.getD 0 none, ← slots.getD 1 none, slots)
  match (r.find? text place).bind ends with
  | none => none
  | some (first, last, slots) =>
    if first = last ∧ some last = lastEnd then (r.find? text (place + 1)).bind ends
    else some (first, last, slots)

/-- Replaces the matches from `place` on; what stands before `place` is done.
The fuel bounds the number of matches. -/
def replaceFrom (r : Regex) (text : Array Char) (parts : List Template) :
    Nat → Nat → Option Nat → List Char
  | 0, place, _ => slice text place text.size
  | fuel + 1, place, lastEnd =>
    match nextMatch? r text place lastEnd with
    | none => slice text place text.size
    | some (first, last, slots) =>
      slice text place first ++ parts.flatMap (Template.chars r text slots)
        ++ replaceFrom r text parts fuel last (some last)

/-- A text with every match replaced. -/
def replaceAll (r : Regex) (text replacement : String) : String :=
  let cs := text.toList.toArray
  String.ofList (replaceFrom r cs (template replacement) (cs.size + 2) 0 none)

end Regex

end HookRules
