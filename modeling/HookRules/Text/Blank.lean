/-
Blank characters and trimming.

The blanks are the characters of the Unicode property White_Space. Trimming
takes them off both ends of a text and leaves those inside alone.
-/
namespace HookRules

namespace Text

/-- The property White_Space. -/
def isBlank (c : Char) : Bool :=
  let n := c.toNat
  (9 ≤ n && n ≤ 13) || n == 0x20 || n == 0x85 || n == 0xA0 || n == 0x1680
    || (0x2000 ≤ n && n ≤ 0x200A) || n == 0x2028 || n == 0x2029 || n == 0x202F
    || n == 0x205F || n == 0x3000

/-- Characters without the blanks at both ends. -/
def trimChars (cs : List Char) : List Char :=
  ((cs.dropWhile isBlank).reverse.dropWhile isBlank).reverse

/-- A text without the blanks at both ends. -/
def trim (s : String) : String := String.ofList (trimChars s.toList)

/-- Whether a text holds nothing but blanks. -/
def isBlankText (s : String) : Bool := s.toList.all isBlank

/-- A text without the blanks at its end. -/
def trimEnd (s : String) : String :=
  String.ofList (s.toList.reverse.dropWhile isBlank).reverse

/-- A text without as many copies of `lead` as stand at its start. -/
def dropLeading (lead : List Char) : List Char → List Char
  | [] => []
  | c :: cs =>
    if !lead.isEmpty && lead.isPrefixOf (c :: cs) then
      dropLeading lead (cs.drop (lead.length - 1))
    else c :: cs
termination_by cs => cs.length
decreasing_by simp only [List.length_drop, List.length_cons]; omega

end Text

end HookRules
