/-
Values up to their fractions.

Reading a fraction from text and writing it again need not give the same last digit,
so a text tells its value up to the fractions in it (`SameButFractions`). What does
not look at fractions cannot tell such values apart: an object has the same names,
and under each of them the same value up to fractions (`get?_coarse`). Putting the
fields of objects in order does not look at them either (`coarse_normalize`).

A text of a value spells it so, with the fields of objects in any order and no deeper
than the reader goes (`IsTextOf`), and is read back to such a value.
-/
import HookRules.Proofs.Json.Completeness
import HookRules.Proofs.Json.Normal

namespace HookRules

namespace Json

mutual

/-- A value with zero for every fraction in it. Numbers stay numbers and
fractions fractions, so that what only asks for the kind of a value cannot tell
either. -/
def coarse : Json → Json
  | .num (.float _) => .num (.float .zero)
  | .num (.int n) => .num (.int n)
  | .arr items => .arr (coarseItems items)
  | .obj fields => .obj (coarseFields fields)
  | .null => .null
  | .bool b => .bool b
  | .str s => .str s

def coarseItems : List Json → List Json
  | [] => []
  | v :: vs => v.coarse :: coarseItems vs

def coarseFields : List (String × Json) → List (String × Json)
  | [] => []
  | (k, v) :: fs => (k, v.coarse) :: coarseFields fs

end

/-- Two values that differ in fractions at most: integers, texts, names and
shapes are the same. -/
def SameButFractions (v w : Json) : Prop := v.coarse = w.coarse

/-- What differs from an object in fractions at most is an object, with the same
names. -/
theorem SameButFractions.exists_fields {v : Json} {fields : Fields}
    (h : v.SameButFractions (.obj fields)) :
    ∃ fs : Fields, v = .obj fs ∧ coarseFields fs = coarseFields fields := by
  unfold SameButFractions at h
  cases v with
  | obj fs => exact ⟨fs, rfl, Json.obj.inj h⟩
  | num n => cases n <;> cases h
  | _ => cases h

/-- The functions on items and on fields are maps, as far as their proofs are
concerned. -/
theorem coarseItems_eq (vs : List Json) : coarseItems vs = vs.map coarse := by
  induction vs with
  | nil => rfl
  | cons v vs ih => rw [coarseItems, ih, List.map_cons]

theorem coarseFields_eq (fs : List (String × Json)) :
    coarseFields fs = fs.map fun f => (f.1, f.2.coarse) := by
  induction fs with
  | nil => rfl
  | cons f fs ih => rw [coarseFields, ih, List.map_cons]

/-- Looking up a name does not look at fractions. -/
theorem get?_coarse (fs : Fields) (name : String) :
    Fields.get? (coarseFields fs) name = (Fields.get? fs name).map coarse := by
  induction fs with
  | nil => rfl
  | cons f fs ih =>
      obtain ⟨k, v⟩ := f
      rw [coarseFields, Fields.get?_cons, Fields.get?_cons, ih]
      split <;> rfl

/-- An object that stands under a name in a value stands there, up to fractions, in
every value that differs in fractions at most. -/
theorem SameButFractions.object_under {fs fields inner : Fields}
    (h : (obj fs).SameButFractions (.obj fields)) {name : String}
    (hinner : Fields.get? fs name = some (.obj inner)) :
    ∃ other : Fields, Fields.get? fields name = some (.obj other)
      ∧ (obj other).SameButFractions (.obj inner) := by
  obtain ⟨_, ⟨⟩, hcoarse⟩ := SameButFractions.exists_fields h.symm
  have hlook : (Fields.get? fields name).map coarse = some (obj inner).coarse := by
    rw [← get?_coarse, hcoarse, get?_coarse, hinner, Option.map_some]
  obtain ⟨v, hv, hsame⟩ := Option.map_eq_some_iff.mp hlook
  obtain ⟨other, rfl, -⟩ := SameButFractions.exists_fields hsame
  exact ⟨other, hv, hsame⟩

/-- Fields are put in their places by their names. -/
theorem insert_coarse (name : String) (v : Json) (fs : Fields) :
    coarseFields (Fields.insert name v fs)
      = Fields.insert name v.coarse (coarseFields fs) := by
  induction fs with
  | nil => rfl
  | cons f fs ih =>
      obtain ⟨k, w⟩ := f
      simp only [coarseFields, Fields.insert]
      split
      · rfl
      · split
        · rfl
        · rw [coarseFields, ih]

/-- So a whole list of fields is set without looking at fractions. -/
theorem overlay_coarse (base top : Fields) :
    coarseFields (Fields.overlay base top)
      = Fields.overlay (coarseFields base) (coarseFields top) := by
  induction top generalizing base with
  | nil => rfl
  | cons f top ih =>
      obtain ⟨k, v⟩ := f
      show coarseFields (Fields.overlay (Fields.insert k v base) top) = _
      rw [ih, insert_coarse]
      rfl

mutual

/-- Fields are put in order by their names. -/
theorem coarse_normalize : ∀ v : Json, v.normalize.coarse = v.coarse.normalize
  | .null => rfl
  | .bool _ => rfl
  | .num (.int _) => rfl
  | .num (.float _) => rfl
  | .str _ => rfl
  | .arr items => by
      rw [normalize, coarse, coarse, normalize, coarse_normalizeItems items]
  | .obj fields => by
      rw [normalize, coarse, coarse, normalize, ← coarse_normalizeFields fields]
      exact congrArg Json.obj (overlay_coarse [] _)

/-- For the items of a list, one after the other. -/
theorem coarse_normalizeItems : ∀ vs : List Json,
    coarseItems (normalizeItems vs) = normalizeItems (coarseItems vs)
  | [] => rfl
  | v :: vs => by
      rw [normalizeItems, coarseItems, coarseItems, normalizeItems,
        coarse_normalize v, coarse_normalizeItems vs]

/-- For the fields of an object, whose values come into order before they are
put in their places. -/
theorem coarse_normalizeFields : ∀ fs : List (String × Json),
    coarseFields (normalizeFields fs) = normalizeFields (coarseFields fs)
  | [] => rfl
  | (k, v) :: fs => by
      rw [normalizeFields, coarseFields, coarseFields, normalizeFields,
        coarse_normalize v, coarse_normalizeFields fs]

end

-- ======================================================================= texts

/-- A text of a value, without blanks around it. The fields of its objects may
stand in any order and come more than once, the last of a name counting. -/
def IsTextOf (cs : List Char) (v : Json) : Prop :=
  ∃ w, Spells (.value w) cs ∧ w.NestsWithin Reader.maxNesting
    ∧ w.normalize.SameButFractions v

/-- A text of a value is read to that value. -/
theorem read?_of_isTextOf {cs : List Char} {v : Json} (h : IsTextOf cs v) :
    ∃ w, read? (String.ofList cs) = some w ∧ w.SameButFractions v := by
  obtain ⟨w, hspells, hnests, hsame⟩ := h
  have hpadded : Spells (.padded w) ([] ++ (cs ++ [])) :=
    .padded .nil hspells .nil
  rw [List.nil_append, List.append_nil] at hpadded
  refine ⟨w.normalize, ?_, hsame⟩
  unfold read?
  rw [written?_of_spells hpadded hnests, Option.map_some]

end Json

end HookRules
