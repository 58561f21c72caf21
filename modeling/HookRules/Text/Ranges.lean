/-
Sets and maps of characters, written as short text.

A property of characters is a list of code point ranges in ascending order. It
is written with hexadecimal bounds, `41-5A 61-7A AA`, and looked up by
bisection. A map of characters is a list of runs, `41-5A+20 100-12E/2+1`: the
bounds of the run, `/2` if only every second character from the first on
belongs to it, and the distance that every member moves.
-/
namespace HookRules

-- ==================================================== reading bounds

/-- The value of hexadecimal digits. -/
def Text.hexValue (cs : List Char) : Nat :=
  cs.foldl (fun n c =>
    16 * n + (if c.isDigit then c.toNat - '0'.toNat
      else if c.isUpper then c.toNat - 'A'.toNat + 10
      else c.toNat - 'a'.toNat + 10)) 0

/-- Bounds written `first-last`, or one number for a range of one. -/
def Text.bounds (cs : List Char) : Nat × Nat :=
  match cs.span (· != '-') with
  | (first, _ :: last) => (hexValue first, hexValue last)
  | (only, []) => (hexValue only, hexValue only)

/-- The words of lines, in which one blank stands between words. -/
def Text.words (lines : List String) : List (List Char) :=
  lines.flatMap fun line => line.toList.splitOn ' '

-- ============================================================== sets

/-- Ascending code point ranges, bounds included. -/
structure Ranges where
  pairs : Array (Nat × Nat)

namespace Ranges

/-- The set of a text, given line by line. -/
def ofText (lines : List String) : Ranges :=
  ⟨(Text.words lines).toArray.map Text.bounds⟩

/-- Bisection between two places of the array; the fuel bounds the halvings. -/
def search (pairs : Array (Nat × Nat)) (n : Nat) : Nat → Nat → Nat → Bool
  | 0, _, _ => false
  | fuel + 1, lo, hi =>
    if lo < hi then
      let mid := (lo + hi) / 2
      match pairs[mid]? with
      | none => false
      | some (first, last) =>
        if n < first then search pairs n fuel lo mid
        else if last < n then search pairs n fuel (mid + 1) hi
        else true
    else false

/-- Whether a character lies in one of the ranges. -/
def contains (r : Ranges) (c : Char) : Bool :=
  search r.pairs c.toNat (Nat.log2 r.pairs.size + 2) 0 r.pairs.size

end Ranges

-- ============================================================== maps

/-- A run of characters that move by the same distance. -/
structure Run where
  first : Nat
  last : Nat
  /-- Only every second character of the bounds belongs to the run. -/
  alternate : Bool
  distance : Int

/-- Runs in ascending order of their first characters. -/
structure Runs where
  runs : Array Run

namespace Runs

/-- One run from its text. -/
def runOfText (cs : List Char) : Run :=
  let (bounds, rest) := cs.span fun c => c.isAlphanum
  let (bounds, rest) := match rest with
    | '-' :: more =>
      -- a minus is the range mark unless nothing of the distance would be left
      let (last, rest') := more.span fun c => c.isAlphanum
      if rest'.isEmpty then (bounds, rest) else (bounds ++ '-' :: last, rest')
    | _ => (bounds, rest)
  let (alternate, rest) := match rest with
    | '/' :: '2' :: more => (true, more)
    | _ => (false, rest)
  let distance : Int := match rest with
    | '-' :: ds => -(Text.hexValue ds : Int)
    | '+' :: ds => Text.hexValue ds
    | _ => 0
  let (first, last) := Text.bounds bounds
  ⟨first, last, alternate, distance⟩

/-- The map of a text, given line by line. -/
def ofText (lines : List String) : Runs := ⟨(Text.words lines).toArray.map runOfText⟩

/-- The last run that starts at or before a code point. -/
def search (runs : Array Run) (n : Nat) : Nat → Nat → Nat → Option Run
  | 0, _, _ => none
  | fuel + 1, lo, hi =>
    if lo < hi then
      let mid := (lo + hi) / 2
      match runs[mid]? with
      | none => none
      | some run =>
        if n < run.first then search runs n fuel lo mid
        else (search runs n fuel (mid + 1) hi).or (some run)
    else none

/-- Where a character goes, if it belongs to a run. -/
def get? (r : Runs) (c : Char) : Option Char :=
  match search r.runs c.toNat (Nat.log2 r.runs.size + 2) 0 r.runs.size with
  | none => none
  | some run =>
    if run.last < c.toNat then none
    else if run.alternate && (c.toNat - run.first) % 2 == 1 then none
    else some (Char.ofNat (c.toNat + run.distance).toNat)

end Runs

end HookRules
