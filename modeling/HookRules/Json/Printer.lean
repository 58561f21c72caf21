/-
Compact JSON text.

No blanks, object fields in their order, characters outside ASCII as they are.
Control characters, the quote and the backslash are escaped, with the short
escapes where JSON has them. Numbers of integer form are written in decimal;
the others get the shortest digits that read back, positionally for exponents
of the first digit from -5 to 15 and otherwise with a signed exponent.
-/
import HookRules.Json.Basic
import HookRules.Number.Shortest

namespace HookRules

/-- Fractions are positional from 0.00001 up to sixteen whole digits; beyond
that the exponent always has a sign. -/
def Number.layout : Binary64.Layout := ⟨-5, 15, 'e', "+"⟩

/-- The text of a number. -/
def Number.render : Number → String
  | .int n => if n < 0 then "-" ++ Nat.repr n.natAbs else Nat.repr n.natAbs
  | .float x => x.render Number.layout

namespace Json

/-- A hexadecimal digit in lower case. -/
def hexDigit (n : Nat) : Char :=
  if n < 10 then Char.ofNat (48 + n) else Char.ofNat (87 + n)

/-- The written form of one character of a string. -/
def escape (c : Char) : List Char :=
  match c with
  | '"' => ['\\', '"']
  | '\\' => ['\\', '\\']
  | '\n' => ['\\', 'n']
  | '\r' => ['\\', 'r']
  | '\t' => ['\\', 't']
  | '\x08' => ['\\', 'b']
  | '\x0c' => ['\\', 'f']
  | c =>
    if c.toNat < 0x20 then
      ['\\', 'u', '0', '0', hexDigit (c.toNat / 16), hexDigit (c.toNat % 16)]
    else [c]

/-- The written form of a string, quotes included. -/
def quote (s : String) : List Char := '"' :: s.toList.flatMap escape ++ ['"']

mutual

/-- The characters of the compact text of a value. -/
def chars : Json → List Char
  | .null => "null".toList
  | .bool true => "true".toList
  | .bool false => "false".toList
  | .num n => n.render.toList
  | .str s => quote s
  | .arr [] => ['[', ']']
  | .arr (v :: vs) => '[' :: chars v ++ itemChars vs ++ [']']
  | .obj [] => ['{', '}']
  | .obj ((k, v) :: fs) => '{' :: quote k ++ ':' :: chars v ++ fieldChars fs ++ ['}']

/-- Further items, each after a comma. -/
def itemChars : List Json → List Char
  | [] => []
  | v :: vs => ',' :: chars v ++ itemChars vs

/-- Further fields, each after a comma. -/
def fieldChars : List (String × Json) → List Char
  | [] => []
  | (k, v) :: fs => ',' :: quote k ++ ':' :: chars v ++ fieldChars fs

end

/-- The compact text of a value. -/
def render (v : Json) : String := String.ofList v.chars

end Json

end HookRules
