/-
Sets of characters in patterns.

A set is kept as it is written: ranges, properties, unions and the other set
operations, complements and closure under case. Membership follows the form.
-/
import HookRules.Text.Fold
import HookRules.Text.Category
import HookRules.Text.Property

namespace HookRules

namespace Regex

/-- A set of characters in the form in which a pattern gives it. The two
closures under case are forms of their own, since what they close is not known
before it is complete. -/
inductive CharSet where
  | nothing
  | anything
  | range (first last : Nat)
  | ranges (r : Ranges)
  | union (a b : CharSet)
  | inter (a b : CharSet)
  | diff (a b : CharSet)
  | symmDiff (a b : CharSet)
  | compl (a : CharSet)
  /-- With every character its case variants. -/
  | folded (a : CharSet)
  /-- With every ASCII letter the same letter in the other case. -/
  | asciiFolded (a : CharSet)

namespace CharSet

/-- The same ASCII letter in the other case. -/
def otherCase (c : Char) : Char := if c.isUpper then c.toLower else c.toUpper

/-- Whether a character is in a set. -/
def contains : CharSet → Char → Bool
  | nothing, _ => false
  | anything, _ => true
  | range first last, c => first ≤ c.toNat && c.toNat ≤ last
  | ranges r, c => r.contains c
  | union a b, c => a.contains c || b.contains c
  | inter a b, c => a.contains c && b.contains c
  | diff a b, c => a.contains c && !b.contains c
  | symmDiff a b, c => a.contains c != b.contains c
  | compl a, c => !a.contains c
  | folded a, c => a.contains c || (Text.caseVariants c).any fun d => a.contains d
  | asciiFolded a, c => a.contains c || a.contains (otherCase c)

/-- One character. -/
def single (c : Char) : CharSet := .range c.toNat c.toNat

/-- Ranges of code points. -/
def ofRanges (rs : List (Nat × Nat)) : CharSet :=
  rs.foldr (fun r s => .union (.range r.1 r.2) s) .nothing

/-- The complement if asked for. -/
def complIf (negated : Bool) (s : CharSet) : CharSet := if negated then .compl s else s

-- =================================================== named sets

/-- The decimal digits of all scripts. -/
def digits : CharSet := ((Text.category? "nd").map CharSet.ranges).getD .nothing

/-- The blanks of a pattern. -/
def spaces : CharSet := ((Text.property? "whitespace").map CharSet.ranges).getD .nothing

/-- The characters of words: letters, marks, digits and connecting punctuation. -/
def words : CharSet := .ranges Text.word

/-- The digits of ASCII. -/
def asciiDigits : CharSet := ofRanges [(0x30, 0x39)]

/-- The blanks of ASCII. -/
def asciiSpaces : CharSet := ofRanges [(9, 13), (0x20, 0x20)]

/-- The characters of words in ASCII, for patterns that are not to look beyond
it. -/
def asciiWords : CharSet := ofRanges [(0x30, 0x39), (0x41, 0x5A), (0x5F, 0x5F), (0x61, 0x7A)]

/-- The named ASCII sets of brackets. -/
def ascii? : String → Option CharSet
  | "alnum" => some (ofRanges [(0x30, 0x39), (0x41, 0x5A), (0x61, 0x7A)])
  | "alpha" => some (ofRanges [(0x41, 0x5A), (0x61, 0x7A)])
  | "ascii" => some (ofRanges [(0, 0x7F)])
  | "blank" => some (ofRanges [(9, 9), (0x20, 0x20)])
  | "cntrl" => some (ofRanges [(0, 0x1F), (0x7F, 0x7F)])
  | "digit" => some asciiDigits
  | "graph" => some (ofRanges [(0x21, 0x7E)])
  | "lower" => some (ofRanges [(0x61, 0x7A)])
  | "print" => some (ofRanges [(0x20, 0x7E)])
  | "punct" => some (ofRanges [(0x21, 0x2F), (0x3A, 0x40), (0x5B, 0x60), (0x7B, 0x7E)])
  | "space" => some asciiSpaces
  | "upper" => some (ofRanges [(0x41, 0x5A)])
  | "word" => some asciiWords
  | "xdigit" => some (ofRanges [(0x30, 0x39), (0x41, 0x46), (0x61, 0x66)])
  | _ => none

end CharSet

end Regex

end HookRules
