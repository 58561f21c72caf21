/-
Shell globs.

`?` stands for one character, `*` for any run of characters, separators
included, `[ab]`, `[a-c]` and `[!a]` for one character inside or outside a
set. Two stars form a path component of their own and stand for any number of
components. The whole text has to match.
-/
namespace HookRules

namespace Glob

-- ============================================================ syntax

/-- A member of a bracketed set. -/
inductive Member where
  | single (c : Char)
  | range (first last : Char)

/-- One part of a glob. -/
inductive Part where
  | char (c : Char)
  | anyChar
  | anyRun
  /-- Whole path components, as many as fit. -/
  | components
  | within (members : List Member)
  | outside (members : List Member)

/-- Why a text is no glob, with the place counted in characters. -/
inductive Fault where
  | tooManyStars (position : Nat)
  | partialComponent (position : Nat)
  | badRange (position : Nat)
deriving DecidableEq

def Fault.message : Fault → String
  | .tooManyStars p => text p "wildcards are either regular `*` or recursive `**`"
  | .partialComponent p => text p "recursive wildcards must form a single path component"
  | .badRange p => text p "invalid range pattern"
where
  text (p : Nat) (reason : String) : String :=
    "Pattern syntax error near position " ++ Nat.repr p ++ ": " ++ reason

/-- The members of a bracketed set: `a-c` is a range, all else stands for itself. -/
def members : List Char → List Member
  | first :: '-' :: last :: rest => .range first last :: members rest
  | c :: rest => .single c :: members rest
  | [] => []

/-- The set that opens at the front, up to the first closing bracket that is
not its first member, and what follows it. -/
def bracketed? : List Char → Option (Part × List Char)
  | '!' :: first :: rest =>
    match rest.span (· != ']') with
    | (more, _ :: after) => some (.outside (members (first :: more)), after)
    | (_, []) => none
  | first :: rest =>
    if first = '!' then none
    else match rest.span (· != ']') with
      | (more, _ :: after) => some (.within (members (first :: more)), after)
      | (_, []) => none
  | [] => none

/-- The parts of a glob from a place on. `before` is the character in front of
that place, if there is one; the fuel bounds the number of parts. -/
def partsFrom : Nat → Nat → Option Char → List Char → Except Fault (List Part)
  | _, _, _, [] => .ok []
  | 0, position, _, _ => .error (.badRange position)
  | fuel + 1, position, before, c :: rest =>
    match c with
    | '?' => (partsFrom fuel (position + 1) (some c) rest).map (.anyChar :: ·)
    | '*' =>
      let stars := (c :: rest).takeWhile (· == '*')
      let after := (c :: rest).dropWhile (· == '*')
      match stars.length with
      | 1 => (partsFrom fuel (position + 1) (some c) after).map (.anyRun :: ·)
      | 2 =>
        if before = none ∨ before = some '/' then
          match after with
          | [] => .ok [.components]
          | '/' :: after =>
            (partsFrom fuel (position + 3) (some '/') after).map (.components :: ·)
          | _ => .error (.partialComponent (position + 2))
        else .error (.partialComponent (position - 1))
      | _ => .error (.tooManyStars (position + 2))
    | '[' =>
      match bracketed? rest with
      | some (part, after) =>
        let position := position + ((c :: rest).length - after.length)
        (partsFrom fuel position (some ']') after).map (part :: ·)
      | none => .error (.badRange position)
    | c => (partsFrom fuel (position + 1) (some c) rest).map (.char c :: ·)

end Glob

/-- A glob that has been read. -/
structure Glob where
  parts : List Glob.Part

namespace Glob

/-- Reads a glob. -/
def ofText (text : String) : Except Fault Glob :=
  (partsFrom text.toList.length 0 none text.toList).map Glob.mk

-- ========================================================== matching

def Member.holds : Member → Char → Bool
  | .single d, c => c == d
  | .range first last, c => decide (first ≤ c ∧ c ≤ last)

/-- Whether some end of the text has a property. -/
def someEnd (p : List Char → Bool) : List Char → Bool
  | [] => p []
  | c :: cs => p (c :: cs) || someEnd p cs

/-- Whether some end of the text after a separator has a property. -/
def someEndAfterSlash (p : List Char → Bool) : List Char → Bool
  | [] => false
  | c :: cs => (c == '/' && p cs) || someEndAfterSlash p cs

def matchesParts : List Part → List Char → Bool
  | [], cs => cs.isEmpty
  | .anyRun :: ps, cs => someEnd (matchesParts ps) cs
  | .components :: ps, cs =>
    matchesParts ps cs || someEndAfterSlash (matchesParts ps) cs || matchesParts ps []
  | .char d :: ps, c :: cs => c == d && matchesParts ps cs
  | .anyChar :: ps, _ :: cs => matchesParts ps cs
  | .within ms :: ps, c :: cs => ms.any (·.holds c) && matchesParts ps cs
  | .outside ms :: ps, c :: cs => !ms.any (·.holds c) && matchesParts ps cs
  | _ :: _, [] => false

/-- Whether a whole text matches. -/
def accepts (g : Glob) (text : String) : Bool := matchesParts g.parts text.toList

end Glob

end HookRules
