/-
The grammar of JSON text.

`Spells` says which texts spell a value, and the lists of items and fields inside
one, with blanks wherever they may stand. A text spells one value: a character of a
string can be written as itself or by an escape, an integer in one way only, and a
fraction by every numeral that is read to it. The fields of an object are spelled in
their order, and names may be repeated.

The grammar knows nothing of a reader: no state, no stack, no fuel. That arrays and
objects may only stand inside one another so deep is no part of it either, and is
said of the value (`NestsWithin`).
-/
import HookRules.Proofs.Json.Numeral

namespace HookRules

namespace Json

-- =================================================================== strings

/-- Which characters a part of a string spells. -/
inductive SpellsChars : List Char → List Char → Prop where
  | nil : SpellsChars [] []
  /-- A character that stands for itself. -/
  | plain {c : Char} {s cs : List Char} (hquote : c ≠ '"') (hescape : c ≠ '\\')
      (hcontrol : 0x20 ≤ c.toNat) (h : SpellsChars s cs) :
      SpellsChars (c :: s) (c :: cs)
  /-- An escape of one letter. -/
  | short {e c : Char} {s cs : List Char} (he : Token.escaped? e = some c)
      (h : SpellsChars s cs) : SpellsChars (c :: s) ('\\' :: e :: cs)
  /-- The number of a character. -/
  | code {a b c d : Char} {n : Nat} {s cs : List Char}
      (hn : Token.hex4? a b c d = some n) (hwhole : n < 0xD800 ∨ 0xE000 ≤ n)
      (h : SpellsChars s cs) :
      SpellsChars (Char.ofNat n :: s) ('\\' :: 'u' :: a :: b :: c :: d :: cs)
  /-- The number of a character beyond the first 65536, in two halves. -/
  | pair {a b c d a' b' c' d' : Char} {hi lo : Nat} {s cs : List Char}
      (hhi : Token.hex4? a b c d = some hi) (hfirst : 0xD800 ≤ hi ∧ hi < 0xDC00)
      (hlo : Token.hex4? a' b' c' d' = some lo)
      (hsecond : 0xDC00 ≤ lo ∧ lo < 0xE000) (h : SpellsChars s cs) :
      SpellsChars
        (Char.ofNat (0x10000 + (hi - 0xD800) * 0x400 + (lo - 0xDC00)) :: s)
        ('\\' :: 'u' :: a :: b :: c :: d
          :: '\\' :: 'u' :: a' :: b' :: c' :: d' :: cs)

/-- A character that may stand for itself in a string. -/
def isPlain (c : Char) : Bool := c != '"' && c != '\\' && 0x20 ≤ c.toNat

/-- Characters that stand for themselves. -/
theorem SpellsChars.plainly {s : List Char} (h : s.all isPlain = true) :
    SpellsChars s s := by
  induction s with
  | nil => exact .nil
  | cons c s ih =>
      rw [List.all_cons, Bool.and_eq_true] at h
      obtain ⟨hc, hrest⟩ := h
      unfold isPlain at hc
      simp only [Bool.and_eq_true, bne_iff_ne, decide_eq_true_eq] at hc
      exact .plain hc.1.1 hc.1.2 hc.2 (ih hrest)

-- ==================================================================== values

/-- Nothing but blanks of JSON. -/
def IsSpace (cs : List Char) : Prop := ∀ c ∈ cs, Token.isSpace c = true

theorem IsSpace.nil : IsSpace [] := List.forall_mem_nil _

theorem IsSpace.of_all {cs : List Char} (h : cs.all Token.isSpace = true) :
    IsSpace cs := List.all_eq_true.mp h

/-- What a part of a text can spell. -/
inductive Phrase where
  | value (v : Json)
  /-- A value with blanks around it. -/
  | padded (v : Json)
  /-- A name and its value, with blanks around both. -/
  | field (name : String) (v : Json)
  /-- The items of an array, at least one. -/
  | items (vs : List Json)
  /-- The fields of an object, at least one. -/
  | fields (fs : List (String × Json))

inductive Spells : Phrase → List Char → Prop where
  | null : Spells (.value .null) "null".toList
  | true : Spells (.value (.bool true)) "true".toList
  | false : Spells (.value (.bool false)) "false".toList
  | num (l : Numeral) {n : Number} (h : l.number? = some n) :
      Spells (.value (.num n)) l.chars
  | str {s : String} {cs : List Char} (h : SpellsChars s.toList cs) :
      Spells (.value (.str s)) ('"' :: cs ++ ['"'])
  | noItems {b : List Char} (hb : IsSpace b) :
      Spells (.value (.arr [])) ('[' :: b ++ [']'])
  | arr {vs : List Json} {cs : List Char} (h : Spells (.items vs) cs) :
      Spells (.value (.arr vs)) ('[' :: cs ++ [']'])
  | noFields {b : List Char} (hb : IsSpace b) :
      Spells (.value (.obj [])) ('{' :: b ++ ['}'])
  | obj {fs : List (String × Json)} {cs : List Char}
      (h : Spells (.fields fs) cs) :
      Spells (.value (.obj fs)) ('{' :: cs ++ ['}'])
  | padded {v : Json} {b cs d : List Char} (hb : IsSpace b)
      (h : Spells (.value v) cs) (hd : IsSpace d) :
      Spells (.padded v) (b ++ (cs ++ d))
  | field {name : String} {v : Json} {b ks d cs : List Char} (hb : IsSpace b)
      (hname : SpellsChars name.toList ks) (hd : IsSpace d)
      (h : Spells (.padded v) cs) :
      Spells (.field name v) (b ++ '"' :: (ks ++ '"' :: (d ++ ':' :: cs)))
  | lastItem {v : Json} {cs : List Char} (h : Spells (.padded v) cs) :
      Spells (.items [v]) cs
  | item {v : Json} {vs : List Json} {cs ds : List Char}
      (h : Spells (.padded v) cs) (hrest : Spells (.items vs) ds) :
      Spells (.items (v :: vs)) (cs ++ ',' :: ds)
  | lastField {name : String} {v : Json} {cs : List Char}
      (h : Spells (.field name v) cs) : Spells (.fields [(name, v)]) cs
  | moreFields {name : String} {v : Json} {fs : List (String × Json)}
      {cs ds : List Char} (h : Spells (.field name v) cs)
      (hrest : Spells (.fields fs) ds) :
      Spells (.fields ((name, v) :: fs)) (cs ++ ',' :: ds)

/-- At most so many arrays and objects stand inside one another in a value, the
value itself included. -/
def NestsWithin : Nat → Json → Prop
  | n + 1, .arr vs => ∀ v ∈ vs, NestsWithin n v
  | n + 1, .obj fs => ∀ f ∈ fs, NestsWithin n f.2
  | 0, .arr _ => False
  | 0, .obj _ => False
  | _, _ => True

end Json

end HookRules
