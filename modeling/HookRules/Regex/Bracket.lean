/-
Bracketed character sets and escapes.

A bracket holds characters, ranges, escapes, named ASCII sets and further
brackets. Two sets are intersected by `&&`, subtracted by `--` and compared by
`~~`, all of one strength and from left to right; what stands between two
operators is a union. A bracket right after the opening one, or after `[^`,
stands for itself, and so do hyphens there.
-/
import HookRules.Regex.Node
import HookRules.Regex.Property
import HookRules.Text.Blank

namespace HookRules

namespace Regex

/-- What a flag group can switch. -/
structure Flags where
  ignoreCase : Bool := false
  multiLine : Bool := false
  dotAll : Bool := false
  swapGreed : Bool := false
  unicode : Bool := true
  crlf : Bool := false
  verbose : Bool := false

namespace Reader

-- ============================================== blanks and comments

/-- In a verbose pattern blanks and comments to the end of the line are
skipped. -/
def skipFrom (inComment : Bool) : List Char → List Char
  | [] => []
  | c :: cs =>
    if inComment then skipFrom (c != '\n') cs
    else if Text.isBlank c then skipFrom false cs
    else if c == '#' then skipFrom true cs
    else c :: cs

def skip (flags : Flags) (cs : List Char) : List Char :=
  if flags.verbose then skipFrom false cs else cs

-- =========================================================== escapes

/-- What an escape stands for. -/
inductive Escape where
  | char (c : Char)
  /-- A byte above ASCII in a pattern about bytes. -/
  | byte
  | set (s : CharSet)
  | look (l : Look)

/-- Characters with a meaning in patterns. -/
def isMeta (c : Char) : Bool := "\\.+*?()|[]{}^$#&-~".toList.contains c

/-- Whether a backslash before a character gives the character itself. -/
def isPlainEscape (c : Char) : Bool :=
  isMeta c || (c.toNat < 128 && !c.isAlphanum && c != '<' && c != '>')

def hexValue? (c : Char) : Option Nat :=
  if c.isDigit then some (c.toNat - '0'.toNat)
  else if 'a' ≤ c ∧ c ≤ 'f' then some (c.toNat - 'a'.toNat + 10)
  else if 'A' ≤ c ∧ c ≤ 'F' then some (c.toNat - 'A'.toNat + 10)
  else none

/-- A code point that is a character. -/
def charOf? (n : Nat) : Option Char := if n.isValidChar then some (Char.ofNat n) else none

/-- A given number of hexadecimal digits. -/
def fixedHex? (flags : Flags) : Nat → Nat → List Char → Option (Nat × List Char)
  | 0, n, cs => some (n, cs)
  | k + 1, n, cs =>
    match skip flags cs with
    | c :: cs => (hexValue? c).bind fun d => fixedHex? flags k (16 * n + d) cs
    | [] => none

/-- Hexadecimal digits up to a closing brace. -/
def bracedHex? (flags : Flags) (cs : List Char) : Option (Nat × List Char) :=
  match cs.span (· != '}') with
  | (body, _ :: rest) =>
    match skip flags body with
    | [] => none
    | body =>
      (body.filter fun c => !(flags.verbose && Text.isBlank c)).foldlM
        (fun n c => (hexValue? c).bind fun d =>
          let n := 16 * n + d
          if n < Nat.pow 2 32 then some n else none) 0 |>.map (·, rest)
  | (_, []) => none

/-- A character escape by number. -/
def hexEscape? (flags : Flags) (digits : Nat) (cs : List Char) :
    Option (Escape × List Char) := do
  let (n, rest) ← match skip flags cs with
    | '{' :: more => bracedHex? flags more
    | more => fixedHex? flags digits 0 more
  if !flags.unicode && digits == 2 && 0x80 ≤ n && n < 0x100 then return (.byte, rest)
  return (.char (← charOf? n), rest)

/-- A set whose members in a pattern about bytes have to be ASCII. -/
def checkedSet? (flags : Flags) (s : CharSet) : Option CharSet :=
  if !flags.unicode && (List.range 128).any fun n => s.contains (Char.ofNat (128 + n)) then none
  else some s

/-- One of the sets that an escape letter names. -/
def letterSet (flags : Flags) (c : Char) : CharSet :=
  let base := match c.toLower with
    | 'd' => if flags.unicode then .digits else .asciiDigits
    | 's' => if flags.unicode then .spaces else .asciiSpaces
    | _ => if flags.unicode then .words else .asciiWords
  CharSet.complIf c.isUpper base

/-- Closure under case if the flags ask for it. -/
def foldIf (flags : Flags) (s : CharSet) : CharSet :=
  if flags.ignoreCase then (if flags.unicode then .folded s else .asciiFolded s) else s

/-- A property escape after its letter. -/
def propertyEscape? (flags : Flags) (negated : Bool) (cs : List Char) :
    Option (Escape × List Char) := do
  if !flags.unicode then none
  else
    let (s, inner, rest) ← match skip flags cs with
      | '{' :: more =>
        match more.span (· != '}') with
        | (body, _ :: rest) =>
          (CharSet.ofPropertyText? body).map fun (s, inner) => (s, inner, rest)
        | (_, []) => none
      | c :: rest =>
        if c == '\\' then none
        else (CharSet.category? (CharSet.normalName [c])).map fun s => (s, false, rest)
      | [] => none
    return (.set (CharSet.complIf (negated != inner) (foldIf flags s)), rest)

/-- The sides of a word that stand in braces after a word boundary escape.
`none` inside means that the braces are a repetition. -/
def boundaryName? (flags : Flags) (cs : List Char) : Option (Option (Look × List Char)) :=
  let isNameChar (c : Char) : Bool := c.isAlpha || c == '-'
  match skip flags cs with
  | c :: more =>
    if isNameChar c then
      let (name, rest) := (c :: more).span isNameChar
      match rest with
      | '}' :: rest =>
        let ascii := !flags.unicode
        match String.ofList name with
        | "start" => some (some (.wordStart ascii, rest))
        | "end" => some (some (.wordEnd ascii, rest))
        | "start-half" => some (some (.wordStartHalf ascii, rest))
        | "end-half" => some (some (.wordEndHalf ascii, rest))
        | _ => none
      | _ => none
    else some none
  | [] => none

/-- An escape after its backslash. -/
def escape? (flags : Flags) : List Char → Option (Escape × List Char)
  | [] => none
  | c :: rest =>
    let ascii := !flags.unicode
    match c with
    | 'x' => hexEscape? flags 2 rest
    | 'u' => hexEscape? flags 4 rest
    | 'U' => hexEscape? flags 8 rest
    | 'p' => propertyEscape? flags false rest
    | 'P' => propertyEscape? flags true rest
    | 'd' | 's' | 'w' | 'D' | 'S' | 'W' =>
      some (.set (letterSet flags c), rest)
    | 'a' => some (.char '\x07', rest)
    | 'f' => some (.char '\x0c', rest)
    | 't' => some (.char '\t', rest)
    | 'n' => some (.char '\n', rest)
    | 'r' => some (.char '\r', rest)
    | 'v' => some (.char '\x0b', rest)
    | 'A' => some (.look .textStart, rest)
    | 'z' => some (.look .textEnd, rest)
    | 'B' => some (.look (.notWordBoundary ascii), rest)
    | '<' => some (.look (.wordStart ascii), rest)
    | '>' => some (.look (.wordEnd ascii), rest)
    | 'b' =>
      match rest with
      | '{' :: more =>
        match boundaryName? flags more with
        | none => none
        | some none => some (.look (.wordBoundary ascii), rest)
        | some (some (l, rest)) => some (.look l, rest)
      | _ => some (.look (.wordBoundary ascii), rest)
    | c => if isPlainEscape c then some (.char c, rest) else none

-- ========================================================== brackets

/-- One character or set of a bracket. -/
def bracketAtom? (flags : Flags) : List Char → Option (Escape × List Char)
  | '\\' :: rest => escape? flags rest
  | c :: rest => some (.char c, rest)
  | [] => none

/-- The character that bounds a range. -/
def bound? (flags : Flags) : Escape → Option Char
  | .char c => if !flags.unicode && 128 ≤ c.toNat then none else some c
  | _ => none

/-- What a lone atom adds to a bracket. -/
def member? (flags : Flags) : Escape → Option CharSet
  | .char c => (bound? flags (.char c)).map CharSet.single
  | .set s => some s
  | .byte => none
  | .look _ => none

/-- A character, an escape or a range at the front of a bracket. -/
def bracketRange? (flags : Flags) (cs : List Char) : Option (CharSet × List Char) := do
  let (first, rest) ← bracketAtom? flags cs
  let rest := skip flags rest
  match rest with
  | [] => none
  | '-' :: more =>
    match skip flags more with
    | [] => none
    | ']' :: _ => return (← member? flags first, rest)
    | '-' :: _ => return (← member? flags first, rest)
    | more =>
      let (last, rest) ← bracketAtom? flags more
      let lo ← bound? flags first
      let hi ← bound? flags last
      if lo ≤ hi then return (.range lo.toNat hi.toNat, rest) else none
  | _ => return (← member? flags first, rest)

/-- A named ASCII set after `[`, if what stands there has that form. -/
def asciiSet? (flags : Flags) (cs : List Char) : Option (CharSet × List Char) := do
  let ':' :: cs := cs | none
  let (negated, cs) := match cs with
    | '^' :: rest => (true, rest)
    | _ => (false, cs)
  let (name, rest) := cs.span (· != ':')
  let ':' :: ']' :: rest := rest | none
  let s ← CharSet.ascii? (String.ofList name)
  return (CharSet.complIf negated (foldIf flags s), rest)

/-- How two sets are combined. -/
inductive SetOp where
  | inter | diff | symmDiff

/-- A bracket that is being read: the operator that waits with its left side,
and the union read since. -/
structure Open where
  negated : Bool
  pending : Option (CharSet × SetOp)
  current : CharSet

/-- The left side of what follows: the pending operator applied to the union
read since. -/
def Open.value (flags : Flags) (o : Open) : CharSet :=
  match o.pending with
  | none => o.current
  | some (lhs, op) =>
    let lhs := foldIf flags lhs
    let rhs := foldIf flags o.current
    match op with
    | .inter => .inter lhs rhs
    | .diff => .diff lhs rhs
    | .symmDiff => .symmDiff lhs rhs

/-- An operator comes after the union read so far. -/
def Open.operator (flags : Flags) (o : Open) (op : SetOp) : Open :=
  { o with pending := some (o.value flags, op), current := .nothing }

/-- The union grows. -/
def Open.add (o : Open) (s : CharSet) : Open := { o with current := .union o.current s }

/-- The start of a bracket after `[`: a circumflex, hyphens, and one closing
bracket that stands for itself. -/
def openBracket? (flags : Flags) (cs : List Char) : Option (Open × List Char) :=
  match skip flags cs with
  | [] => none
  | cs =>
    let (negated, cs) := match cs with
      | '^' :: rest => (true, skip flags rest)
      | _ => (false, cs)
    let hyphens := hyphensOf flags cs
    let o : Open := ⟨negated, none, if hyphens.1 then .single '-' else .nothing⟩
    match hyphens.2 with
    | [] => none
    | ']' :: rest =>
      if hyphens.1 then some (o, ']' :: rest)
      else match skip flags rest with
        | [] => none
        | rest => some (o.add (.single ']'), rest)
    | rest => some (o, rest)
where
  /-- Whether hyphens stand at the front, and what follows them. -/
  hyphensOf (flags : Flags) (cs : List Char) : Bool × List Char :=
    let rest := cs.dropWhile fun c => c == '-' || (flags.verbose && Text.isBlank c)
    (cs.head? == some '-', if cs.head? == some '-' then rest else cs)

/-- The rest of a bracket, given the brackets that are open, innermost first.
The fuel bounds the number of parts. -/
def bracketWith (flags : Flags) : Nat → List Open → List Char → Option (CharSet × List Char)
  | 0, _, _ => none
  | _, [], _ => none
  | fuel + 1, o :: outer, cs =>
    match skip flags cs with
    | [] => none
    | '[' :: rest =>
      match asciiSet? flags rest with
      | some (s, rest) => bracketWith flags fuel (o.add s :: outer) rest
      | none =>
        match openBracket? flags rest with
        | some (inner, rest) => bracketWith flags fuel (inner :: o :: outer) rest
        | none => none
    | ']' :: rest =>
      let s := CharSet.complIf o.negated (foldIf flags (o.value flags))
      match checkedSet? flags s, outer with
      | none, _ => none
      | some s, [] => some (s, rest)
      | some s, p :: outer => bracketWith flags fuel (p.add s :: outer) rest
    | '&' :: '&' :: rest => bracketWith flags fuel (o.operator flags .inter :: outer) rest
    | '-' :: '-' :: rest => bracketWith flags fuel (o.operator flags .diff :: outer) rest
    | '~' :: '~' :: rest => bracketWith flags fuel (o.operator flags .symmDiff :: outer) rest
    | cs =>
      match bracketRange? flags cs with
      | some (s, rest) => bracketWith flags fuel (o.add s :: outer) rest
      | none => none

/-- A bracketed set after its opening bracket. -/
def bracket? (flags : Flags) (cs : List Char) : Option (CharSet × List Char) := do
  let (o, rest) ← openBracket? flags cs
  bracketWith flags (cs.length + 1) [o] rest

end Reader

end Regex

end HookRules
