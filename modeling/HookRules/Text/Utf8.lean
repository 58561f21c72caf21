/-
Text from bytes.

Bytes are read as UTF-8. Where they are no UTF-8, each longest start of a
character that cannot go on stands for one replacement character, and so does
each byte that can start none. A text is cut to a number of bytes by stepping
back from there to a place between two characters, so no character is split.
-/
namespace HookRules

namespace Text

/-- What stands for bytes that are no text. -/
def replacement : Char := Char.ofNat 0xFFFD

/-- A character that is not complete: how many bytes are missing, the bits so
far, and between which bounds the next byte has to lie. -/
structure Partial where
  missing : Nat
  value : Nat
  low : Nat
  high : Nat

/-- The bounds of a byte that only continues a character. -/
def Partial.continued (missing value : Nat) : Partial := ⟨missing, value, 0x80, 0xBF⟩

/-- What the first byte of a character gives: a character of its own, the start
of a longer one, or a replacement. The bounds of the second byte leave out
overlong forms, surrogates and numbers beyond the last character. -/
def start (b : Nat) : List Char × Option Partial :=
  if b < 0x80 then ([Char.ofNat b], none)
  else if b < 0xC2 then ([replacement], none)
  else if b < 0xE0 then ([], some (.continued 1 (b - 0xC0)))
  else if b = 0xE0 then ([], some ⟨2, 0, 0xA0, 0xBF⟩)
  else if b = 0xED then ([], some ⟨2, 0xD, 0x80, 0x9F⟩)
  else if b < 0xF0 then ([], some (.continued 2 (b - 0xE0)))
  else if b = 0xF0 then ([], some ⟨3, 0, 0x90, 0xBF⟩)
  else if b < 0xF4 then ([], some (.continued 3 (b - 0xF0)))
  else if b = 0xF4 then ([], some ⟨3, 4, 0x80, 0x8F⟩)
  else ([replacement], none)

/-- Decodes bytes after a character that may be incomplete. -/
def decodeFrom : Option Partial → List UInt8 → List Char
  | none, [] => []
  | some _, [] => [replacement]
  | none, b :: bs =>
    let (cs, p) := start b.toNat
    cs ++ decodeFrom p bs
  | some p, b :: bs =>
    let n := b.toNat
    if p.low ≤ n ∧ n ≤ p.high then
      let value := p.value * 64 + (n - 0x80)
      if p.missing ≤ 1 then Char.ofNat value :: decodeFrom none bs
      else decodeFrom (some (.continued (p.missing - 1) value)) bs
    else
      let (cs, q) := start n
      replacement :: cs ++ decodeFrom q bs

/-- The text of bytes. -/
def decode (bs : List UInt8) : List Char := decodeFrom none bs

/-- The place between two characters that is reached from a number of bytes by
stepping back. The start and the end of the text are such places as well. -/
def boundaryBefore (s : String) : Nat → Nat
  | 0 => 0
  | n + 1 =>
    if (⟨n + 1⟩ : String.Pos.Raw).IsValid s then n + 1 else boundaryBefore s n

/-- The text of bytes, cut to at most `limit` bytes, and whether it was cut. -/
def decodeUpTo (limit : Nat) (bs : List UInt8) : String × Bool :=
  let text := String.ofList (decode bs)
  if text.utf8ByteSize ≤ limit then (text, false)
  else (String.Pos.Raw.extract text ⟨0⟩ ⟨boundaryBefore text limit⟩, true)

end Text

end HookRules
