/-
Commands of the shell.

A word is made of parts: text as it is, quoted text, the value of a variable,
the output of a command, or the value of an integer expression. Values that are
not quoted are split at blanks when the word is expanded.
-/
namespace HookRules

namespace Shell

/-- What is done with the value of a variable in braces. -/
inductive ChangeKind where
  /-- A word instead of nothing; `coversEmpty` when also instead of an empty value. -/
  | orElse (coversEmpty : Bool)
  /-- As before, and the variable is set to the word. -/
  | orSet (coversEmpty : Bool)
  /-- The word instead of any value. -/
  | ifSet (coversEmpty : Bool)
  /-- The value has to be there; otherwise the word is said and the shell ends. -/
  | demand (coversEmpty : Bool)
  /-- What matches the word is cut off at an end, as much or as little as can be. -/
  | cut (atFront longest : Bool)
  | length

/-- Where input comes from or output goes. -/
inductive Channel where
  | input | appended | output
  /-- The same place as a numbered channel. -/
  | copy
  /-- The text that follows. -/
  | text

mutual

inductive Part where
  | plain (s : String)
  | quoted (s : String)
  | variable (name : String) (change : Option (ChangeKind × List Part)) (isQuoted : Bool)
  | output (body : Command) (isQuoted : Bool)
  | integer (expression : List Part) (isQuoted : Bool)

inductive Redirect where
  | to (number : Nat) (channel : Channel) (word : List Part)

inductive Command where
  | nothing
  | simple (line : Nat) (assignments : List (String × List Part)) (words : List (List Part))
  | redirected (body : Command) (redirects : List Redirect)
  | pipe (left right : Command)
  | negated (body : Command)
  | sequence (first second : Command)
  | both (first second : Command)
  | either (first second : Command)
  | background (body : Command)
  | conditional (test yes no : Command)
  /-- Runs the body while the test answers `goal`. -/
  | loop (goal : Bool) (test body : Command)
  /-- Runs the body for each word, or for each argument if there are no words. -/
  | each (name : String) (words : Option (List (List Part))) (body : Command)
  | choice (word : List Part) (branches : List (List (List Part) × Command))
  | subshell (body : Command)
  | define (name : String) (body : Command)

end

/-- The parts of a word. -/
abbrev Word := List Part

instance : Inhabited Command := ⟨.nothing⟩

/-- A command and then another. -/
def Command.andThen : Command → Command → Command
  | .nothing, c => c
  | c, .nothing => c
  | c, d => .sequence c d

end Shell

end HookRules
