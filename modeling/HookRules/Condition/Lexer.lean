/-
Cutting a condition into tokens.

Blanks separate tokens and mean nothing else. Two-character operators win over
one-character ones. A string runs to the quote that opened it; a backslash
takes the next character as it is, with four exceptions. A number is an
integer unless a point with a digit on each side stands in it, so `items.0`
and `1.field` keep their points.
-/
import HookRules.Condition.Token
import HookRules.Number.Decimal
import HookRules.Text.Blank
import HookRules.Text.Letter

namespace HookRules

namespace Condition

namespace Lexer

/-- The bytes that characters take in UTF-8. -/
def byteLength : List Char → Nat
  | [] => 0
  | c :: cs => c.utf8Size + byteLength cs

/-- A fault at a place of the text that is given by what remains there. -/
abbrev Step (α : Type) := Except (SyntaxFault × List Char) α

/-- The character that a backslash and `c` stand for in a string. -/
def unescape (c : Char) : Char :=
  match c with
  | 'n' => '\n'
  | 't' => '\t'
  | 'r' => '\r'
  | '0' => '\x00'
  | c => c

/-- The rest of a string after its opening quote. `whole` is the text from the
opening quote on, where an unterminated string is reported. -/
def stringBody (quote : Char) (whole : List Char) : List Char → Step (List Char × List Char)
  | [] => .error (.unterminatedString, whole)
  | ['\\'] => .error (.danglingEscape, ['\\'])
  | '\\' :: c :: rest => do
    let (cs, rest) ← stringBody quote whole rest
    return (unescape c :: cs, rest)
  | c :: rest =>
    if c = quote then .ok ([], rest)
    else do
      let (cs, rest) ← stringBody quote whole rest
      return (c :: cs, rest)

/-- The number at the start of a text that starts with a digit. -/
def number (cs : List Char) : Step (Number × List Char) :=
  let (whole, rest) := cs.span Char.isDigit
  let integer : Step (Number × List Char) :=
    let n := Decimal.ofDigits whole
    if n < Nat.pow 2 63 then .ok (.int n, rest)
    else .error (.badNumber (String.ofList whole), cs)
  match rest with
  | '.' :: d :: more =>
    if d.isDigit then
      let (fraction, rest) := (d :: more).span Char.isDigit
      let digits := Decimal.ofDigits (whole ++ fraction)
      match Decimal.nearest? false digits (-(fraction.length : Int)) with
      | some x => .ok (.float x, rest)
      | none => .error (.badNumber (String.ofList (whole ++ '.' :: fraction)), cs)
    else integer
  | _ => integer

/-- Whether a character can start a word. -/
def startsWord (c : Char) : Bool := Text.isLetter c || c == '_'

/-- Whether a character can continue a word. -/
def continuesWord (c : Char) : Bool := Text.isLetterOrNumber c || c == '_'

/-- The first lexeme of a text that starts with no blank, and what follows it. -/
def next : (cs : List Char) → Step (Lexeme × List Char)
  | [] => .error (.expected .value none, [])
  | '=' :: '=' :: rest => .ok (.eq, rest)
  | '=' :: '~' :: rest => .ok (.search, rest)
  | '!' :: '=' :: rest => .ok (.ne, rest)
  | '<' :: '=' :: rest => .ok (.le, rest)
  | '>' :: '=' :: rest => .ok (.ge, rest)
  | '&' :: '&' :: rest => .ok (.and, rest)
  | '|' :: '|' :: rest => .ok (.or, rest)
  | '<' :: rest => .ok (.lt, rest)
  | '>' :: rest => .ok (.gt, rest)
  | '!' :: rest => .ok (.bang, rest)
  | '$' :: rest => .ok (.dollar, rest)
  | '(' :: rest => .ok (.openParen, rest)
  | ')' :: rest => .ok (.closeParen, rest)
  | '[' :: rest => .ok (.openBracket, rest)
  | ']' :: rest => .ok (.closeBracket, rest)
  | ',' :: rest => .ok (.comma, rest)
  | '.' :: rest => .ok (.dot, rest)
  | '-' :: rest => .ok (.minus, rest)
  | c :: rest =>
    if c = '"' ∨ c = '\'' then do
      let (body, rest) ← stringBody c (c :: rest) rest
      return (.str (String.ofList body), rest)
    else if c.isDigit then do
      let (n, rest) ← number (c :: rest)
      return (.num n, rest)
    else if startsWord c then
      let (name, rest) := (c :: rest).span continuesWord
      .ok (.word (String.ofList name), rest)
    else if c = '=' then .error (.loneEquals, c :: rest)
    else .error (.strayCharacter c, c :: rest)

/-- The tokens of a text that starts at byte `position`. The fuel bounds the
number of steps; each consumes a character. -/
def tokensWith : Nat → Nat → List Char → Except SyntaxError (List Token)
  | _, _, [] => .ok []
  | 0, position, _ => .error ⟨.expected .value none, position⟩
  | fuel + 1, position, c :: cs =>
    if Text.isBlank c then tokensWith fuel (position + c.utf8Size) cs
    else
      let after (rest : List Char) : Nat :=
        position + (byteLength (c :: cs) - byteLength rest)
      match next (c :: cs) with
      | .error (fault, rest) => .error ⟨fault, after rest⟩
      | .ok (lexeme, rest) => do
        let tokens ← tokensWith fuel (after rest) rest
        return ⟨lexeme, position⟩ :: tokens

end Lexer

/-- The tokens of a condition. -/
def tokenize (source : String) : Except SyntaxError (List Token) :=
  Lexer.tokensWith source.toList.length 0 source.toList

end Condition

end HookRules
