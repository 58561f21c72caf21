/-
Printed values are read back.

The compact text of a value spells it, without blanks anywhere and with its fields in
the order in which they stand (`spells_chars`). Of a fraction the text has digits that
are read to some fraction again, and nothing more is said of which one. For an integer
this needs that text can hold it (`HoldsJsonInts`): a greater one would be read as a
fraction. So the text is text of the value (`isTextOf_chars`), and reading it gives
the value up to its fractions, with the fields of objects in order
(`read?_render`).
-/
import HookRules.Proofs.Json.Fractions
import HookRules.Proofs.Json.PrintedNumber
import Mathlib

namespace HookRules

namespace Json

-- =================================================================== strings

/-- The number of a control character, as it is printed. -/
theorem hex4?_control (n : Fin 0x20) :
    Token.hex4? '0' '0' (hexDigit (n / 16)) (hexDigit (n % 16)) = some n := by
  revert n
  decide

/-- A printed character spells itself. -/
theorem SpellsChars.escape (c : Char) {s cs : List Char} (h : SpellsChars s cs) :
    SpellsChars (c :: s) (Json.escape c ++ cs) := by
  unfold Json.escape
  split
  · exact .short rfl h
  · exact .short rfl h
  · exact .short rfl h
  · exact .short rfl h
  · exact .short rfl h
  · exact .short rfl h
  · exact .short rfl h
  · next hquote hescape _ _ _ _ _ =>
      split
      · next hcontrol =>
          have hcode := SpellsChars.code (hex4?_control ⟨c.toNat, hcontrol⟩)
            (Or.inl (Nat.lt_trans hcontrol (by decide))) h
          rwa [Char.ofNat_toNat] at hcode
      · next hcontrol =>
          exact .plain hquote hescape (Nat.not_lt.mp hcontrol) h

/-- A printed text spells itself. -/
theorem SpellsChars.flatMap_escape (s : List Char) :
    SpellsChars s (s.flatMap Json.escape) := by
  induction s with
  | nil => exact .nil
  | cons c s ih =>
      rw [List.flatMap_cons]
      exact .escape c ih

-- ==================================================================== values

mutual

/-- A value whose integers are integers of JSON text. -/
def HoldsJsonInts : Json → Prop
  | .num (.int n) => Condition.IsJsonInt n
  | .arr items => ItemsHoldJsonInts items
  | .obj fields => FieldsHoldJsonInts fields
  | _ => True

def ItemsHoldJsonInts : List Json → Prop
  | [] => True
  | v :: vs => HoldsJsonInts v ∧ ItemsHoldJsonInts vs

def FieldsHoldJsonInts : List (String × Json) → Prop
  | [] => True
  | (_, v) :: fs => HoldsJsonInts v ∧ FieldsHoldJsonInts fs

end

/-- A value without blanks around it. -/
theorem Spells.bare {v : Json} {cs : List Char} (h : Spells (.value v) cs) :
    Spells (.padded v) cs := by
  have hpadded := Spells.padded .nil h .nil
  rwa [List.nil_append, List.append_nil] at hpadded

/-- A name and its value without blanks around them. -/
theorem Spells.bareField (name : String) {v : Json} {cs : List Char}
    (h : Spells (.value v) cs) :
    Spells (.field name v) (quote name ++ ':' :: cs) := by
  have hname : SpellsChars name.toList (name.toList.flatMap escape) :=
    .flatMap_escape name.toList
  have hfield := Spells.field .nil hname .nil h.bare
  unfold quote
  rw [List.cons_append, List.cons_append, List.append_assoc]
  exact hfield

mutual

/-- A printed value spells one that differs in fractions at most. -/
theorem spells_chars : ∀ v : Json, v.HoldsJsonInts →
    ∃ w, w.SameButFractions v ∧ Spells (.value w) v.chars
  | .null, _ => ⟨_, rfl, .null⟩
  | .bool true, _ => ⟨_, rfl, .true⟩
  | .bool false, _ => ⟨_, rfl, .false⟩
  | .num (.int n), h => by
      refine ⟨_, rfl, ?_⟩
      rw [chars, ← Numeral.chars_ofInt]
      exact .num _ (Numeral.number?_ofInt h)
  | .num (.float x), _ => by
      obtain ⟨l, hchars, y, hy⟩ := exists_numeral_float x
      refine ⟨.num (.float y), rfl, ?_⟩
      rw [chars, ← hchars]
      exact .num l hy
  | .str s, _ => ⟨_, rfl, .str (.flatMap_escape s.toList)⟩
  | .arr [], _ => ⟨_, rfl, .noItems .nil⟩
  | .arr (v :: vs), ⟨hv, hvs⟩ => by
      obtain ⟨w, hsame, hspells⟩ := spells_chars v hv
      obtain ⟨ws, hsames, hitems⟩ := spells_itemChars vs hvs
      refine ⟨.arr (w :: ws), ?_, .arr (hitems hspells.bare)⟩
      exact congrArg Json.arr (congrArg₂ List.cons hsame hsames)
  | .obj [], _ => ⟨_, rfl, .noFields .nil⟩
  | .obj ((k, v) :: fs), ⟨hv, hfs⟩ => by
      obtain ⟨w, hsame, hspells⟩ := spells_chars v hv
      obtain ⟨gs, hsames, hfields⟩ := spells_fieldChars fs hfs
      refine ⟨.obj ((k, w) :: gs), ?_, .obj (hfields (.bareField k hspells))⟩
      unfold SameButFractions at hsame ⊢
      rw [coarse, coarse, coarseFields, coarseFields, hsame, hsames]

/-- Further items are spelled behind an item. -/
theorem spells_itemChars : ∀ vs : List Json, ItemsHoldJsonInts vs →
    ∃ ws, coarseItems ws = coarseItems vs ∧ ∀ {w : Json} {cs : List Char},
      Spells (.padded w) cs → Spells (.items (w :: ws)) (cs ++ itemChars vs)
  | [], _ => by
      refine ⟨[], rfl, ?_⟩
      intro w cs h
      rw [itemChars, List.append_nil]
      exact .lastItem h
  | v :: vs, ⟨hv, hvs⟩ => by
      obtain ⟨w, hsame, hspells⟩ := spells_chars v hv
      obtain ⟨ws, hsames, hitems⟩ := spells_itemChars vs hvs
      refine ⟨w :: ws, congrArg₂ List.cons hsame hsames, ?_⟩
      intro w' cs h
      exact .item h (hitems hspells.bare)

/-- Further fields are spelled behind a field. -/
theorem spells_fieldChars : ∀ fs : List (String × Json), FieldsHoldJsonInts fs →
    ∃ gs, coarseFields gs = coarseFields fs
      ∧ ∀ {name : String} {w : Json} {cs : List Char},
        Spells (.field name w) cs →
        Spells (.fields ((name, w) :: gs)) (cs ++ fieldChars fs)
  | [], _ => by
      refine ⟨[], rfl, ?_⟩
      intro name w cs h
      rw [fieldChars, List.append_nil]
      exact .lastField h
  | (k, v) :: fs, ⟨hv, hfs⟩ => by
      obtain ⟨w, hsame, hspells⟩ := spells_chars v hv
      obtain ⟨gs, hsames, hfields⟩ := spells_fieldChars fs hfs
      refine ⟨(k, w) :: gs, ?_, ?_⟩
      · rw [coarseFields, coarseFields, hsame, hsames]
      · intro name w' cs h
        exact .moreFields h (hfields (.bareField k hspells))

end

-- ================================================================ reading back

/-- Fractions nest nothing. -/
theorem nestsWithin_coarse {n : Nat} {v : Json} :
    v.coarse.NestsWithin n ↔ v.NestsWithin n := by
  induction n generalizing v with
  | zero =>
      cases v with
      | num n => cases n <;> rfl
      | _ => rfl
  | succ n ih =>
      cases v with
      | num n => cases n <;> rfl
      | arr items =>
          rw [coarse, coarseItems_eq, NestsWithin, NestsWithin, List.forall_mem_map]
          exact forall₂_congr fun v _ => ih
      | obj fields =>
          rw [coarse, coarseFields_eq, NestsWithin, NestsWithin, List.forall_mem_map]
          exact forall₂_congr fun f _ => ih
      | _ => rfl

theorem SameButFractions.nestsWithin {v w : Json} (h : w.SameButFractions v) {n : Nat}
    (hv : v.NestsWithin n) : w.NestsWithin n := by
  rw [← nestsWithin_coarse, h, nestsWithin_coarse]
  exact hv

/-- The compact text of a value is text of the value, its fields being in order. -/
theorem isTextOf_chars {v : Json} (hints : v.HoldsJsonInts)
    (hnests : v.NestsWithin Reader.maxNesting) : IsTextOf v.chars v.normalize := by
  obtain ⟨w, hsame, hspells⟩ := spells_chars v hints
  refine ⟨w, hspells, hsame.nestsWithin hnests, ?_⟩
  unfold SameButFractions at hsame ⊢
  rw [coarse_normalize, coarse_normalize, hsame]

/-- A printed value is read back, up to its fractions and with its fields in order. -/
theorem read?_render {v : Json} (hints : v.HoldsJsonInts)
    (hnests : v.NestsWithin Reader.maxNesting) :
    ∃ w, read? v.render = some w ∧ w.SameButFractions v.normalize :=
  read?_of_isTextOf (isTextOf_chars hints hnests)

end Json

end HookRules
