/-
Numbers, truth values and times of TOML.

A scalar is one word; only a date and a time may have a blank between them.
Integers fit 64 bits with a sign; fractions are the nearest binary64 number.
Infinities and what is no number have no value in JSON and read as null. A
time is an object with one field that holds its text.
-/
import HookRules.Toml.Text

namespace HookRules

namespace Toml

-- ============================================================ numbers

/-- Digits with single underscores between them, the underscores left out. -/
def grouped? (isDigit : Char → Bool) : List Char → Option (List Char)
  | [] => none
  | [c] => if isDigit c then some [c] else none
  | c :: '_' :: rest => if isDigit c then (grouped? isDigit rest).map (c :: ·) else none
  | c :: rest => if isDigit c then (grouped? isDigit rest).map (c :: ·) else none

/-- Decimal digits with no zero in front. -/
def decimal? (cs : List Char) : Option (List Char) :=
  (grouped? Char.isDigit cs).filter fun ds => ds.length == 1 || ds.head? != some '0'

/-- An integer in a base, which has to fit 64 bits with a sign. -/
def inBase? (base : Nat) (cs : List Char) : Option Json := do
  let isDigit (c : Char) : Bool := (Json.Token.hexDigit? c).any (· < base)
  let ds ← grouped? isDigit cs
  let n := (ds.filterMap Json.Token.hexDigit?).foldl (fun acc d => base * acc + d) 0
  if n < Nat.pow 2 63 then some (.ofInt n) else none

def exponent? (cs : List Char) : Option Int :=
  match cs with
  | '+' :: ds => (grouped? Char.isDigit ds).map fun ds => (Decimal.ofDigits ds : Int)
  | '-' :: ds => (grouped? Char.isDigit ds).map fun ds => -(Decimal.ofDigits ds : Int)
  | ds => (grouped? Char.isDigit ds).map fun ds => (Decimal.ofDigits ds : Int)

/-- The number of a fraction. One that is too large is refused if it is positive
and infinite if it is negative. -/
def fraction? (negative : Bool) (whole places : List Char) (exponent : Int) : Option Json :=
  match Decimal.nearest? negative (Decimal.ofDigits (whole ++ places))
      (exponent - places.length) with
  | some x => some (.num (.float x))
  | none => if negative then some .null else none

/-- A decimal number after its sign. -/
def unsigned? (negative : Bool) (cs : List Char) : Option Json := do
  let isMark (c : Char) : Bool := c == 'e' || c == 'E'
  let (whole, rest) := cs.span fun c => c.isDigit || c == '_'
  let whole ← decimal? whole
  match rest with
  | [] =>
    let n : Int := Decimal.ofDigits whole
    let n := if negative then -n else n
    if -(Nat.pow 2 63 : Int) ≤ n ∧ n < Nat.pow 2 63 then some (.ofInt n) else none
  | '.' :: rest =>
    let (places, rest) := rest.span fun c => !isMark c
    let places ← grouped? Char.isDigit places
    match rest with
    | [] => fraction? negative whole places 0
    | _ :: rest => fraction? negative whole places (← exponent? rest)
  | c :: rest => if isMark c then fraction? negative whole [] (← exponent? rest) else none

/-- A number of any form. -/
def number? : List Char → Option Json
  | '0' :: 'x' :: ds => inBase? 16 ds
  | '0' :: 'o' :: ds => inBase? 8 ds
  | '0' :: 'b' :: ds => inBase? 2 ds
  | '+' :: rest => unsigned? false rest
  | '-' :: rest => unsigned? true rest
  | rest => unsigned? false rest

-- ============================================================== times

/-- Two digits at the front of a text with a value in a range. -/
def twoDigits (least greatest : Nat) : Step Nat
  | a :: b :: rest =>
    let n := Decimal.ofDigits [a, b]
    if a.isDigit && b.isDigit && least ≤ n && n ≤ greatest then some (n, rest) else none
  | _ => none

/-- A character that has to stand at the front of a text. -/
def mark (c : Char) : Step Unit
  | d :: rest => if d = c then some ((), rest) else none
  | [] => none

/-- A number with zeros in front up to a width. -/
def padded (width n : Nat) : String :=
  let digits := Nat.repr n
  String.ofList (List.replicate (width - digits.length) '0') ++ digits

def daysOf (year month : Nat) : Nat :=
  if month = 2 then
    if year % 4 = 0 ∧ (year % 100 ≠ 0 ∨ year % 400 = 0) then 29 else 28
  else if month = 4 ∨ month = 6 ∨ month = 9 ∨ month = 11 then 30
  else 31

/-- A date at the front of a text, as text. -/
def date (cs : List Char) : Option (String × List Char) := do
  if !(cs.take 4).all Char.isDigit then none
  let year := Decimal.ofDigits (cs.take 4)
  let ((), cs) ← mark '-' (cs.drop 4)
  let (month, cs) ← twoDigits 1 12 cs
  let ((), cs) ← mark '-' cs
  let (day, cs) ← twoDigits 1 (daysOf year month) cs
  return (padded 4 year ++ "-" ++ padded 2 month ++ "-" ++ padded 2 day, cs)

/-- The written places of a second: nine at most, and no zeros at the end. -/
def placesText (places : List Char) : String :=
  match ((places.take 9).reverse.dropWhile (· == '0')).reverse with
  | [] => ""
  | kept => "." ++ String.ofList kept

/-- A time of day at the front of a text, as text. -/
def timeOfDay (cs : List Char) : Option (String × List Char) := do
  let (hour, cs) ← twoDigits 0 23 cs
  let ((), cs) ← mark ':' cs
  let (minute, cs) ← twoDigits 0 59 cs
  let ((), cs) ← mark ':' cs
  let (second, cs) ← twoDigits 0 60 cs
  let (places, cs) ← match cs with
    | '.' :: rest =>
      match rest.span Char.isDigit with
      | ([], _) => none
      | (places, rest) => some (placesText places, rest)
    | _ => some ("", cs)
  return (padded 2 hour ++ ":" ++ padded 2 minute ++ ":" ++ padded 2 second ++ places, cs)

/-- The distance to world time that a text consists of, as text. No text is no
distance, and a distance of nothing is never negative. -/
def zone? : List Char → Option String
  | [] => some ""
  | ['Z'] | ['z'] => some "Z"
  | sign :: rest => do
    if sign ≠ '+' ∧ sign ≠ '-' then none
    let (hour, cs) ← twoDigits 0 23 rest
    let ((), cs) ← mark ':' cs
    let (minute, cs) ← twoDigits 0 59 cs
    if !cs.isEmpty then none
    let sign := if sign = '-' ∧ 0 < hour + minute then "-" else "+"
    return sign ++ padded 2 hour ++ ":" ++ padded 2 minute

/-- The text of a date, a time, or both. -/
def moment? (word : List Char) : Option String :=
  match date word with
  | some (day, []) => some day
  | some (day, c :: rest) =>
    if c = 'T' ∨ c = 't' ∨ c = ' ' then do
      let (time, rest) ← timeOfDay rest
      let zone ← zone? rest
      return day ++ "T" ++ time ++ zone
    else none
  | none =>
    match timeOfDay word with
    | some (time, []) => some time
    | _ => none

/-- The name of the field that holds the text of a time. -/
def timeField : String := "$__toml_private_datetime"

-- ============================================================= scalars

/-- Whether a character can be part of a scalar. -/
def isWordChar (c : Char) : Bool :=
  c.isAlphanum || c == '+' || c == '-' || c == '_' || c == '.' || c == ':'

/-- The value of a word. -/
def ofWord? (word : List Char) : Option Json :=
  match String.ofList word with
  | "true" => some (.bool true)
  | "false" => some (.bool false)
  | "inf" | "+inf" | "-inf" | "nan" | "+nan" | "-nan" => some .null
  | _ =>
    match moment? word with
    | some text => some (.ofFields [(timeField, .str text)])
    | none => number? word

/-- The word at the front of a text. After a date, a blank and what starts like a
time belong to it. -/
def word (cs : List Char) : List Char × List Char :=
  match cs.span isWordChar with
  | (first, ' ' :: a :: b :: ':' :: rest) =>
    if (date first).any (·.2.isEmpty) && a.isDigit && b.isDigit then
      let (more, rest) := rest.span isWordChar
      (first ++ ' ' :: a :: b :: ':' :: more, rest)
    else (first, ' ' :: a :: b :: ':' :: rest)
  | split => split

/-- A scalar at the front of a text. -/
def scalar (cs : List Char) : Option (Json × List Char) :=
  let (w, rest) := word cs
  (ofWord? w).map (·, rest)

end Toml

end HookRules
