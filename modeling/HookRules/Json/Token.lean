/-
The tokens of JSON text.

`scan` cuts a text into brackets, commas, colons, words, strings and numbers,
the four blanks of JSON being skipped. Strings are read whole: a control
character inside, an unknown escape or half a surrogate pair is refused. A
number is read to its value: integers that fit 64 bits stay integers, minus
zero and everything else is a fraction, and one past the largest finite
fraction is refused.
-/
import HookRules.Json.Basic
import HookRules.Number.Decimal

namespace HookRules

namespace Json

inductive Token where
  | openBracket | closeBracket | openBrace | closeBrace | comma | colon
  | null | bool (b : Bool) | num (n : Number) | str (s : String)

namespace Token

-- =========================================================== strings

/-- The value of one hexadecimal digit. -/
def hexDigit? (c : Char) : Option Nat :=
  if c.isDigit then some (c.toNat - '0'.toNat)
  else if 'a' ≤ c ∧ c ≤ 'f' then some (c.toNat - 'a'.toNat + 10)
  else if 'A' ≤ c ∧ c ≤ 'F' then some (c.toNat - 'A'.toNat + 10)
  else none

/-- The value of four hexadecimal digits. -/
def hex4? (a b c d : Char) : Option Nat := do
  let a ← hexDigit? a
  let b ← hexDigit? b
  let c ← hexDigit? c
  let d ← hexDigit? d
  return ((16 * a + b) * 16 + c) * 16 + d

/-- The character of an escape of one letter. -/
def escaped? : Char → Option Char
  | '"' => some '"'
  | '\\' => some '\\'
  | '/' => some '/'
  | 'b' => some '\x08'
  | 'f' => some '\x0c'
  | 'n' => some '\n'
  | 'r' => some '\r'
  | 't' => some '\t'
  | _ => none

/-- The rest of a string after its opening quote: its characters and what
follows the closing quote. -/
def string? : List Char → Option (List Char × List Char)
  | [] => none
  | '"' :: rest => some ([], rest)
  | '\\' :: 'u' :: a :: b :: c :: d :: rest =>
    match hex4? a b c d with
    | none => none
    | some hi =>
      if 0xD800 ≤ hi ∧ hi < 0xDC00 then
        match rest with
        | '\\' :: 'u' :: a :: b :: c :: d :: rest =>
          match hex4? a b c d with
          | none => none
          | some lo =>
            if 0xDC00 ≤ lo ∧ lo < 0xE000 then
              (string? rest).map fun (cs, r) =>
                (Char.ofNat (0x10000 + (hi - 0xD800) * 0x400 + (lo - 0xDC00)) :: cs, r)
            else none
        | _ => none
      else if 0xDC00 ≤ hi ∧ hi < 0xE000 then none
      else (string? rest).map fun (cs, r) => (Char.ofNat hi :: cs, r)
  | '\\' :: c :: rest =>
    match escaped? c with
    | none => none
    | some e => (string? rest).map fun (cs, r) => (e :: cs, r)
  | c :: rest =>
    if c.toNat < 0x20 then none
    else (string? rest).map fun (cs, r) => (c :: cs, r)

-- =========================================================== numbers

/-- An exponent after its mark: an optional sign and at least one digit. -/
def exponent? (cs : List Char) : Option (Int × List Char) :=
  let (negative, cs) := match cs with
    | '+' :: rest => (false, rest)
    | '-' :: rest => (true, rest)
    | _ => (false, cs)
  match cs.span Char.isDigit with
  | ([], _) => none
  | (ds, rest) =>
    let n : Int := Decimal.ofDigits ds
    some (if negative then -n else n, rest)

/-- The whole digits of a number: a zero alone or digits that start with none. -/
def whole? (cs : List Char) : Option (List Char × List Char) :=
  match cs.span Char.isDigit with
  | ([], _) => none
  | (['0'], rest) => some (['0'], rest)
  | ('0' :: _, _) => none
  | (ds, rest) => some (ds, rest)

/-- A minus sign, if there is one. -/
def sign : List Char → Bool × List Char
  | '-' :: rest => (true, rest)
  | cs => (false, cs)

/-- The digits after a point, if there is one. -/
def fraction? : List Char → Option (Option (List Char) × List Char)
  | '.' :: rest =>
    match rest.span Char.isDigit with
    | ([], _) => none
    | (ds, rest) => some (some ds, rest)
  | cs => some (none, cs)

/-- The exponent after its mark, if there is one. -/
def marked? : List Char → Option (Option Int × List Char)
  | 'e' :: rest => (exponent? rest).map fun (e, r) => (some e, r)
  | 'E' :: rest => (exponent? rest).map fun (e, r) => (some e, r)
  | cs => some (none, cs)

/-- Whether an integer is one for 64 bits. Minus zero is none. -/
def fits (negative : Bool) (n : Nat) : Bool :=
  if negative then 0 < n && n ≤ Nat.pow 2 63 else n < Nat.pow 2 64

/-- The number of its parts. A fraction part or exponent mark makes a number a
fraction; so do minus zero and an integer that does not fit 64 bits. -/
def value? (negative : Bool) (whole : List Char) (fraction : Option (List Char))
    (exponent : Option Int) : Option Number :=
  let n := Decimal.ofDigits whole
  if fraction.isNone && exponent.isNone && fits negative n then
    some (.int (if negative then -(n : Int) else n))
  else
    (Decimal.stepwise? negative whole (fraction.getD []) (exponent.getD 0)).map .float

def number? (cs : List Char) : Option (Number × List Char) := do
  let (negative, cs) := sign cs
  let (whole, cs) ← whole? cs
  let (fraction, cs) ← fraction? cs
  let (exponent, cs) ← marked? cs
  let n ← value? negative whole fraction exponent
  return (n, cs)

-- ============================================================ tokens

/-- Whether a character is one of the four blanks of JSON. -/
def isSpace (c : Char) : Bool := c == ' ' || c == '\n' || c == '\t' || c == '\r'

/-- The first token of a text that starts with no blank, and the rest. -/
def next? : List Char → Option (Token × List Char)
  | '[' :: rest => some (.openBracket, rest)
  | ']' :: rest => some (.closeBracket, rest)
  | '{' :: rest => some (.openBrace, rest)
  | '}' :: rest => some (.closeBrace, rest)
  | ',' :: rest => some (.comma, rest)
  | ':' :: rest => some (.colon, rest)
  | 'n' :: 'u' :: 'l' :: 'l' :: rest => some (.null, rest)
  | 't' :: 'r' :: 'u' :: 'e' :: rest => some (.bool true, rest)
  | 'f' :: 'a' :: 'l' :: 's' :: 'e' :: rest => some (.bool false, rest)
  | '"' :: rest => (string? rest).map fun (cs, r) => (.str (String.ofList cs), r)
  | cs => (number? cs).map fun (n, r) => (.num n, r)

/-- The tokens of a text; the fuel bounds their number. -/
def scanWith : Nat → List Char → Option (List Token)
  | _, [] => some []
  | 0, _ => none
  | fuel + 1, c :: cs =>
    if isSpace c then scanWith fuel cs
    else match next? (c :: cs) with
      | none => none
      | some (t, rest) => (scanWith fuel rest).map (t :: ·)

/-- The tokens of a text, if it can be cut into tokens. -/
def scan (cs : List Char) : Option (List Token) := scanWith cs.length cs

end Token

end Json

end HookRules
