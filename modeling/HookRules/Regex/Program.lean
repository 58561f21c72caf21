/-
Patterns as programs.

A program is an array of steps that name the steps after them. It is written
from its end to its beginning, so that what follows a step is already there;
the one exception is the step that closes a loop, which is put in first and
filled in when the loop is complete.
-/
import HookRules.Regex.Reader

namespace HookRules

namespace Regex

inductive Step where
  | take (s : CharSet) (next : Nat)
  | look (l : Look) (next : Nat)
  /-- Two ways to go on, the preferred one first. -/
  | split (first second : Nat)
  /-- Remembers the place as one end of a group. -/
  | save (slot : Nat) (next : Nat)
  | accept

namespace Program

/-- Adds a step and gives its index. -/
def add (p : Array Step) (s : Step) : Nat × Array Step := (p.size, p.push s)

/-- A split between a body and what follows it. -/
def branch (greedy : Bool) (body after : Nat) : Step :=
  if greedy then .split body after else .split after body

/-- A number of copies one after the other. -/
def copies (emit : Nat → Array Step → Nat × Array Step) :
    Nat → Nat → Array Step → Nat × Array Step
  | 0, next, p => (next, p)
  | k + 1, next, p =>
    let (start, p) := copies emit k next p
    emit start p

/-- Up to a number of copies; each can be left out with all that follow it. -/
def options (emit : Nat → Array Step → Nat × Array Step) (greedy : Bool) (after : Nat) :
    Nat → Array Step → Nat × Array Step
  | 0, p => (after, p)
  | k + 1, p =>
    let (rest, p) := options emit greedy after k p
    let (start, p) := emit rest p
    add p (branch greedy start after)

/-- A body once or more often: the start of the body and the step that closes
the loop. -/
def loop (emit : Nat → Array Step → Nat × Array Step) (greedy : Bool) (next : Nat)
    (p : Array Step) : Nat × Nat × Array Step :=
  let (back, p) := add p (.split next next)
  let (start, p) := emit back p
  (start, back, p.setIfInBounds back (branch greedy start next))

/-- The steps of a node in front of the step `next`. A loop whose body can
match nothing is entered by a choice of its own, which keeps the order of
preferences. -/
def emit : Node → Nat → Array Step → Nat × Array Step
  | .empty, next, p => (next, p)
  | .set s, next, p => add p (.take s next)
  | .look l, next, p => add p (.look l next)
  | .group i n, next, p =>
    let (close, p) := add p (.save (2 * i + 1) next)
    let (start, p) := emit n close p
    add p (.save (2 * i) start)
  | .cat a b, next, p =>
    let (middle, p) := emit b next p
    emit a middle p
  | .alt a b, next, p =>
    let (first, p) := emit a next p
    let (second, p) := emit b next p
    add p (.split first second)
  | .rep n least (some most) greedy, next, p =>
    let (start, p) := options (emit n) greedy next (most - least) p
    copies (emit n) least start p
  | .rep n 0 none greedy, next, p =>
    let (start, back, p) := loop (emit n) greedy next p
    if n.nullable then add p (branch greedy start next) else (back, p)
  | .rep n (least + 1) none greedy, next, p =>
    let (start, _, p) := loop (emit n) greedy next p
    copies (emit n) least start p

end Program

end Regex

/-- A pattern that can be searched for. -/
structure Regex where
  steps : Array Regex.Step
  start : Nat
  groups : Nat
  names : List (String × Nat)

namespace Regex

/-- Why a text is no usable pattern. -/
inductive Fault where
  | malformed
  | tooLarge
deriving DecidableEq

def Fault.message : Fault → String
  | .malformed => "regex parse error:"
  | .tooLarge => "Compiled regex exceeds size limit of 10485760 bytes."

/-- The greatest number of steps of a program. -/
def maxSteps : Nat := 327680

/-- Reads a pattern and prepares it for searching. -/
def ofText (text : String) : Except Fault Regex :=
  match Pattern.ofText? text with
  | none => .error .malformed
  | some pattern =>
    if maxSteps < pattern.node.size then .error .tooLarge
    else
      let (start, steps) := Program.emit pattern.node 0 #[.accept]
      .ok ⟨steps, start, pattern.groups, pattern.names⟩

end Regex

end HookRules
