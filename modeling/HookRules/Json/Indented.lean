/-
JSON text on several lines.

Every item and every field stands on a line of its own, two blanks deeper than
the brackets around it; empty arrays and objects stay on their line.
-/
import HookRules.Json.Printer

namespace HookRules

namespace Json

/-- A new line so many levels deep. -/
def newLine (depth : Nat) : List Char := '\n' :: List.replicate (2 * depth) ' '

mutual

/-- The characters of a value that starts on a line so many levels deep. -/
def indentedChars (depth : Nat) : Json → List Char
  | .arr (v :: vs) =>
    '[' :: newLine (depth + 1) ++ indentedChars (depth + 1) v ++ indentedItems (depth + 1) vs
      ++ newLine depth ++ [']']
  | .obj ((k, v) :: fs) =>
    '{' :: newLine (depth + 1) ++ quote k ++ ':' :: ' ' :: indentedChars (depth + 1) v
      ++ indentedFields (depth + 1) fs ++ newLine depth ++ ['}']
  | v => v.chars

/-- The items after the first one. -/
def indentedItems (depth : Nat) : List Json → List Char
  | [] => []
  | v :: vs => ',' :: newLine depth ++ indentedChars depth v ++ indentedItems depth vs

/-- The fields after the first one. -/
def indentedFields (depth : Nat) : List (String × Json) → List Char
  | [] => []
  | (k, v) :: fs =>
    ',' :: newLine depth ++ quote k ++ ':' :: ' ' :: indentedChars depth v
      ++ indentedFields depth fs

end

/-- The text of a value on several lines. -/
def renderIndented (v : Json) : String := String.ofList (indentedChars 0 v)

end Json

end HookRules
