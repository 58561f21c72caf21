/-
The texts of TOML: blanks, comments, line ends, strings and keys.

Every reader takes the front of a text and gives what it read with the rest.
-/
import HookRules.Json.Token

namespace HookRules

namespace Toml

/-- Reads something at the front of a text. -/
abbrev Step (α : Type) := List Char → Option (α × List Char)

-- ============================================================= blanks

/-- Whether a character may stand in a comment or a string: no control
characters but the tab. -/
def isPlain (c : Char) : Bool := c == '\t' || (0x20 ≤ c.toNat && c.toNat != 0x7F)

def isBlank (c : Char) : Bool := c == ' ' || c == '\t'

def dropBlanks (cs : List Char) : List Char := cs.dropWhile isBlank

/-- What follows a line end. -/
def newline? : List Char → Option (List Char)
  | '\n' :: rest => some rest
  | '\r' :: '\n' :: rest => some rest
  | _ => none

/-- What follows blanks, a comment and a line end or the end of the text. -/
def endOfLine? (cs : List Char) : Option (List Char) :=
  let rest := match dropBlanks cs with
    | '#' :: comment => comment.dropWhile isPlain
    | rest => rest
  if rest.isEmpty then some [] else newline? rest

/-- What follows blanks, line ends and comments; `inComment` while in one. -/
def dropIdleFrom : Bool → List Char → List Char
  | _, [] => []
  | _, '\n' :: rest => dropIdleFrom false rest
  | _, '\r' :: '\n' :: rest => dropIdleFrom false rest
  | true, c :: rest => if isPlain c then dropIdleFrom true rest else c :: rest
  | false, c :: rest =>
    if isBlank c then dropIdleFrom false rest
    else if c = '#' then dropIdleFrom true rest
    else c :: rest

def dropIdle (cs : List Char) : List Char := dropIdleFrom false cs

-- ============================================================ strings

/-- The character of hexadecimal digits; halves of surrogate pairs are none. -/
def charOfHex? (digits : List Char) : Option Char := do
  let ns ← digits.mapM Json.Token.hexDigit?
  let n := ns.foldl (fun acc d => 16 * acc + d) 0
  if n < 0xD800 ∨ 0xDFFF < n ∧ n < 0x110000 then some (Char.ofNat n) else none

/-- The character of the escape after a backslash, and the length of the escape. -/
def escape? : List Char → Option (Char × Nat)
  | 'b' :: _ => some ('\x08', 1)
  | 'f' :: _ => some ('\x0c', 1)
  | 'n' :: _ => some ('\n', 1)
  | 'r' :: _ => some ('\r', 1)
  | 't' :: _ => some ('\t', 1)
  | '\\' :: _ => some ('\\', 1)
  | '"' :: _ => some ('"', 1)
  | 'u' :: rest =>
    if 4 ≤ rest.length then (charOfHex? (rest.take 4)).map (·, 5) else none
  | 'U' :: rest =>
    if 8 ≤ rest.length then (charOfHex? (rest.take 8)).map (·, 9) else none
  | _ => none

/-- One more character of a string that is being read. -/
def keep (c : Char) (s : Option (List Char × List Char)) : Option (List Char × List Char) :=
  s.map fun (cs, rest) => (c :: cs, rest)

/-- A string after its quote, after `skip` characters of an escape. -/
def basicFrom : Nat → Step (List Char)
  | _, [] => none
  | skip + 1, _ :: rest => basicFrom skip rest
  | 0, '"' :: rest => some ([], rest)
  | 0, '\\' :: rest =>
    match escape? rest with
    | some (c, n) => keep c (basicFrom n rest)
    | none => none
  | 0, c :: rest => if isPlain c then keep c (basicFrom 0 rest) else none

/-- A string after its single quote, which knows no escapes. -/
def literal : Step (List Char)
  | [] => none
  | '\'' :: rest => some ([], rest)
  | c :: rest => if isPlain c then keep c (literal rest) else none

/-- The length of the blanks and line ends after a backslash at the end of a
line. -/
def foldLength? (rest : List Char) : Option Nat :=
  if (newline? (dropBlanks rest)).isSome then
    let after := dropIdleSpace rest
    some (rest.length - after.length)
  else none
where
  /-- What follows blanks and line ends. -/
  dropIdleSpace : List Char → List Char
    | '\n' :: rest => dropIdleSpace rest
    | '\r' :: '\n' :: rest => dropIdleSpace rest
    | c :: rest => if isBlank c then dropIdleSpace rest else c :: rest
    | [] => []

/-- A string over several lines after its three quotes, after `skip` characters
of an escape. Up to two quotes may stand before the three that end it. -/
def basicLinesFrom : Nat → Step (List Char)
  | _, [] => none
  | skip + 1, _ :: rest => basicLinesFrom skip rest
  | 0, '"' :: '"' :: '"' :: '"' :: '"' :: rest => some (['"', '"'], rest)
  | 0, '"' :: '"' :: '"' :: '"' :: rest => some (['"'], rest)
  | 0, '"' :: '"' :: '"' :: rest => some ([], rest)
  | 0, '\n' :: rest => keep '\n' (basicLinesFrom 0 rest)
  | 0, '\r' :: '\n' :: rest => keep '\n' (basicLinesFrom 0 rest)
  | 0, '\\' :: rest =>
    match foldLength? rest with
    | some n => basicLinesFrom n rest
    | none =>
      match escape? rest with
      | some (c, n) => keep c (basicLinesFrom n rest)
      | none => none
  | 0, c :: rest => if isPlain c then keep c (basicLinesFrom 0 rest) else none

/-- A string over several lines after its three single quotes. -/
def literalLines : Step (List Char)
  | [] => none
  | '\'' :: '\'' :: '\'' :: '\'' :: '\'' :: rest => some (['\'', '\''], rest)
  | '\'' :: '\'' :: '\'' :: '\'' :: rest => some (['\''], rest)
  | '\'' :: '\'' :: '\'' :: rest => some ([], rest)
  | '\n' :: rest => keep '\n' (literalLines rest)
  | '\r' :: '\n' :: rest => keep '\n' (literalLines rest)
  | c :: rest => if isPlain c then keep c (literalLines rest) else none

/-- A text without the line end at its start. -/
def dropNewline (cs : List Char) : List Char := (newline? cs).getD cs

/-- A string of any of the four forms. -/
def string (cs : List Char) : Option (String × List Char) :=
  let read := match cs with
    | '"' :: '"' :: '"' :: rest => basicLinesFrom 0 (dropNewline rest)
    | '"' :: rest => basicFrom 0 rest
    | '\'' :: '\'' :: '\'' :: rest => literalLines (dropNewline rest)
    | '\'' :: rest => literal rest
    | _ => none
  read.map fun (s, rest) => (String.ofList s, rest)

-- =============================================================== keys

def isBareKey (c : Char) : Bool := c.isAlphanum || c == '-' || c == '_'

/-- One part of a key: bare or a string on one line. -/
def keyPart (cs : List Char) : Option (String × List Char) :=
  match cs with
  | '"' :: rest => (basicFrom 0 rest).map fun (s, rest) => (String.ofList s, rest)
  | '\'' :: rest => (literal rest).map fun (s, rest) => (String.ofList s, rest)
  | _ =>
    match cs.span isBareKey with
    | ([], _) => none
    | (s, rest) => some (String.ofList s, rest)

/-- A key of at most so many parts with dots between them. -/
def keyWith : Nat → Step (List String)
  | 0, _ => none
  | parts + 1, cs => do
    let (part, rest) ← keyPart (dropBlanks cs)
    match dropBlanks rest with
    | '.' :: rest =>
      let (more, rest) ← keyWith parts rest
      return (part :: more, rest)
    | rest => return ([part], rest)

/-- The greatest number of parts of a key, and of values inside each other. -/
def maxNesting : Nat := 79

/-- A key with the blanks around it. -/
def key : Step (List String) := keyWith maxNesting

end Toml

end HookRules
