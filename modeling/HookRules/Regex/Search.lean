/-
Searching for a pattern.

A search tries the places of the text from left to right and, at each place,
the ways through the program in the order of preference. A step is never tried
twice at one place: a second try would fail as the first did, so the work is
bounded by the number of steps times the number of places.
-/
import HookRules.Regex.Program

namespace HookRules

namespace Regex

/-- Whether an anchor or boundary holds at a place of the text. -/
def Look.holds (l : Look) (text : Array Char) (i : Nat) : Bool :=
  let before := if i = 0 then none else text[i - 1]?
  let after := text[i]?
  let isWord (ascii : Bool) (c : Option Char) : Bool :=
    c.any fun c => if ascii then c.isAlphanum || c == '_' else Text.isWordChar c
  match l with
  | .textStart => before.isNone
  | .textEnd => after.isNone
  | .lineStart => before.isNone || before == some '\n'
  | .lineEnd => after.isNone || after == some '\n'
  | .anyLineStart =>
    before.isNone || before == some '\n' || (before == some '\r' && after != some '\n')
  | .anyLineEnd =>
    after.isNone || after == some '\r' || (after == some '\n' && before != some '\r')
  | .wordBoundary a => isWord a before != isWord a after
  | .notWordBoundary a => isWord a before == isWord a after
  | .wordStart a => !isWord a before && isWord a after
  | .wordEnd a => isWord a before && !isWord a after
  | .wordStartHalf a => !isWord a before
  | .wordEndHalf a => !isWord a after

/-- The places that were remembered, two for each group. -/
abbrev Slots := Array (Option Nat)

/-- What is still to be tried: a step, a place and the slots on the way there. -/
structure Attempt where
  step : Nat
  place : Nat
  slots : Slots

/-- Follows the attempts in order until one is accepted. `seen` holds a mark for
each step and place that was tried. -/
def attempt (r : Regex) (text : Array Char) :
    Nat → Array Bool → List Attempt → Option Slots × Array Bool
  | 0, seen, _ => (none, seen)
  | _, seen, [] => (none, seen)
  | fuel + 1, seen, a :: rest =>
    let mark := a.step * (text.size + 1) + a.place
    if seen.getD mark true then attempt r text fuel seen rest
    else
      let seen := seen.setIfInBounds mark true
      match r.steps[a.step]? with
      | none => attempt r text fuel seen rest
      | some .accept => (some (a.slots.setIfInBounds 1 (some a.place)), seen)
      | some (.take s next) =>
        match text[a.place]? with
        | some c =>
          if s.contains c then
            attempt r text fuel seen ({ a with step := next, place := a.place + 1 } :: rest)
          else attempt r text fuel seen rest
        | none => attempt r text fuel seen rest
      | some (.look l next) =>
        if l.holds text a.place then attempt r text fuel seen ({ a with step := next } :: rest)
        else attempt r text fuel seen rest
      | some (.split first second) =>
        attempt r text fuel seen
          ({ a with step := first } :: { a with step := second } :: rest)
      | some (.save slot next) =>
        attempt r text fuel seen
          ({ a with step := next, slots := a.slots.setIfInBounds slot (some a.place) } :: rest)

/-- Tries the places from `place` on, as many as `count`. -/
def searchFrom (r : Regex) (text : Array Char) :
    Nat → Nat → Array Bool → Option Slots
  | 0, _, _ => none
  | count + 1, place, seen =>
    let slots := (Array.replicate (2 * (r.groups + 1)) none).setIfInBounds 0 (some place)
    let fuel := 2 * (r.steps.size * (text.size + 1)) + 2
    match attempt r text fuel seen [⟨r.start, place, slots⟩] with
    | (some slots, _) => some slots
    | (none, seen) => searchFrom r text count (place + 1) seen

/-- The first match that starts at or after a place. -/
def find? (r : Regex) (text : Array Char) (place : Nat) : Option Slots :=
  searchFrom r text (text.size + 1 - place) place
    (Array.replicate (r.steps.size * (text.size + 1)) false)

/-- Whether a pattern matches somewhere in a text. -/
def isMatch (r : Regex) (text : String) : Bool :=
  (r.find? text.toList.toArray 0).isSome

end Regex

end HookRules
