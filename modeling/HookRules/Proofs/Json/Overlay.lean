/-
Objects in two layers.

An object that is changed step by step can be kept as it was, with the changed
fields in a layer of their own that is laid over it in the end. That is the same
as changing the object at once, if the layer holds each name once
(`overlay_insert`): a field that is set in the layer may be set in the object as
well. The layer is in ascending order (`Ascending`), which `insert` keeps, so no
name comes twice in it.

The equations of `insert` that this needs hold for fields in any order: setting a
field twice is setting it once (`insert_insert`), and two fields can be set in
either order (`insert_comm`).
-/
import HookRules.Proofs.Json.Fields
import Mathlib.Data.String.Basic

namespace HookRules

namespace Fields

-- ============================================================ the insertion

/-- The last value of a field is what counts. -/
theorem insert_insert (name : String) (v w : Json) (fs : Fields) :
    insert name v (insert name w fs) = insert name v fs := by
  induction fs with
  | nil =>
      show insert name v [(name, w)] = [(name, v)]
      rw [insert, if_neg (lt_irrefl name), if_pos rfl]
  | cons f rest ih =>
      obtain ⟨k, u⟩ := f
      rcases lt_trichotomy name k with hlt | rfl | hlt
      · rw [insert, insert, if_pos hlt, if_pos hlt, insert,
          if_neg (lt_irrefl name), if_pos rfl]
      · simp only [insert, if_neg (lt_irrefl name), if_true]
      · have hne : name ≠ k := ne_of_gt hlt
        simp only [insert, if_neg (lt_asymm hlt), if_neg hne, ih]

/-- Different fields can be set in either order. -/
theorem insert_comm {name other : String} (h : name ≠ other) (v w : Json)
    (fs : Fields) :
    insert name v (insert other w fs) = insert other w (insert name v fs) := by
  wlog hlt : name < other generalizing name other v w
  · exact (this (Ne.symm h) w v (lt_of_le_of_ne (not_lt.mp hlt) (Ne.symm h))).symm
  have hge : ¬ other < name := lt_asymm hlt
  induction fs with
  | nil =>
      show insert name v [(other, w)] = insert other w [(name, v)]
      simp only [insert, if_pos hlt, if_neg hge, if_neg (Ne.symm h)]
  | cons f rest ih =>
      obtain ⟨k, u⟩ := f
      rcases lt_trichotomy name k with hk | rfl | hk
      · -- the smaller name comes first, whatever the other one does
        have hfirst : insert name v (insert other w ((k, u) :: rest))
            = (name, v) :: insert other w ((k, u) :: rest) := by
          rcases lt_trichotomy other k with ho | rfl | ho
          · simp only [insert, if_pos ho, if_pos hlt]
          · simp only [insert, if_neg (lt_irrefl other), if_true, if_pos hlt]
          · simp only [insert, if_neg (lt_asymm ho), if_neg (ne_of_gt ho),
              if_pos hk]
        rw [hfirst]
        simp only [insert, if_pos hk, if_neg hge, if_neg (Ne.symm h)]
      · simp only [insert, if_neg hge, if_neg (Ne.symm h),
          if_neg (lt_irrefl name), if_true]
      · have ho : k < other := lt_trans hk hlt
        simp only [insert, if_neg (lt_asymm hk), if_neg (lt_asymm ho),
          if_neg (ne_of_gt hk), if_neg (ne_of_gt ho), ih]

/-- A name that no field has gets no value. -/
theorem last?_of_not_mem {fs : List (String × Json)} {name : String}
    (h : ∀ f ∈ fs, f.1 ≠ name) : last? fs name = none := by
  induction fs with
  | nil => rfl
  | cons f rest ih =>
      obtain ⟨hne, hrest⟩ := List.forall_mem_cons.mp h
      rw [last?_cons, ih hrest, Option.none_or, if_neg (Ne.symm hne)]

-- ================================================================ ascending

/-- Fields in ascending order of their names, each name once. -/
def Ascending (fs : Fields) : Prop := fs.Pairwise fun f g => f.1 < g.1

theorem Ascending.nil : Ascending [] := List.Pairwise.nil

/-- A field that is set is put in its place. -/
theorem Ascending.insert {fs : Fields} (h : Ascending fs) (name : String)
    (v : Json) : Ascending (Fields.insert name v fs) := by
  induction fs with
  | nil => exact List.pairwise_singleton _ _
  | cons f rest ih =>
      obtain ⟨k, u⟩ := f
      obtain ⟨hfirst, hrest⟩ := List.pairwise_cons.mp h
      rcases lt_trichotomy name k with hlt | rfl | hlt
      · rw [Fields.insert, if_pos hlt]
        refine List.pairwise_cons.mpr ⟨?_, h⟩
        intro g hg
        rcases List.mem_cons.mp hg with rfl | hg
        · exact hlt
        · exact lt_trans hlt (hfirst g hg)
      · rw [Fields.insert, if_neg (lt_irrefl name), if_pos rfl]
        exact List.pairwise_cons.mpr ⟨hfirst, hrest⟩
      · rw [Fields.insert, if_neg (lt_asymm hlt), if_neg (ne_of_gt hlt)]
        refine List.pairwise_cons.mpr ⟨?_, ih hrest⟩
        intro g hg
        rcases mem_insert hg with rfl | hg
        · exact hlt
        · exact hfirst g hg

/-- Any number of fields that are set are put in their places. -/
theorem Ascending.overlay {base : Fields} (h : Ascending base) (top : Fields) :
    Ascending (Fields.overlay base top) := by
  induction top generalizing base with
  | nil => exact h
  | cons f rest ih => exact ih (h.insert f.1 f.2)

/-- Of fields with one value for each name the last value is the only one. -/
theorem Ascending.last?_eq {fs : Fields} (h : Ascending fs) (name : String) :
    last? fs name = get? fs name := by
  induction fs with
  | nil => rfl
  | cons f rest ih =>
      obtain ⟨k, v⟩ := f
      obtain ⟨hfirst, hrest⟩ := List.pairwise_cons.mp h
      rw [last?_cons, get?_cons]
      by_cases hk : name = k
      · have hnone : last? rest name = none :=
          last?_of_not_mem fun g hg => hk ▸ (ne_of_gt (hfirst g hg))
        rw [hnone, Option.none_or, if_pos hk, if_pos hk]
      · rw [ih hrest, if_neg hk, if_neg hk, Option.or_none]

-- =================================================================== layers

/-- Fields laid over others, one layer after the other. -/
theorem overlay_append (base first later : Fields) :
    overlay base (first ++ later) = overlay (overlay base first) later :=
  List.foldl_append

/-- A field that a layer does not have can be set before or after it. -/
theorem overlay_insert_base {name : String} (v : Json) {top : Fields}
    (h : ∀ f ∈ top, name ≠ f.1) (base : Fields) :
    overlay (insert name v base) top = insert name v (overlay base top) := by
  induction top generalizing base with
  | nil => rfl
  | cons f rest ih =>
      obtain ⟨hne, hrest⟩ := List.forall_mem_cons.mp h
      show overlay (insert f.1 f.2 (insert name v base)) rest = _
      rw [insert_comm (Ne.symm hne), ih hrest]
      rfl

/-- Setting a field in the layer over an object is setting it in the object that
they are together. -/
theorem overlay_insert (base : Fields) {top : Fields} (h : Ascending top)
    (name : String) (v : Json) :
    overlay base (insert name v top) = insert name v (overlay base top) := by
  induction top generalizing base with
  | nil => rfl
  | cons f rest ih =>
      obtain ⟨k, u⟩ := f
      obtain ⟨hfirst, hrest⟩ := List.pairwise_cons.mp h
      rcases lt_trichotomy name k with hlt | rfl | hlt
      · rw [insert, if_pos hlt]
        refine overlay_insert_base v ?_ base
        intro g hg
        rcases List.mem_cons.mp hg with rfl | hg
        · exact ne_of_lt hlt
        · exact ne_of_lt (lt_trans hlt (hfirst g hg))
      · rw [insert, if_neg (lt_irrefl name), if_pos rfl]
        -- the old value in the layer is set over anyway
        show overlay (insert name v base) rest
          = insert name v (overlay (insert name u base) rest)
        rw [← overlay_insert_base v (fun g hg => ne_of_lt (hfirst g hg)),
          insert_insert]
      · rw [insert, if_neg (lt_asymm hlt), if_neg (ne_of_gt hlt)]
        exact ih (insert k u base) hrest

/-- The same for any number of fields. -/
theorem overlay_overlay (base : Fields) {top : Fields} (h : Ascending top)
    (fs : Fields) :
    overlay base (overlay top fs) = overlay (overlay base top) fs := by
  induction fs generalizing top with
  | nil => rfl
  | cons f rest ih =>
      show overlay base (overlay (insert f.1 f.2 top) rest) = _
      rw [ih (h.insert f.1 f.2), overlay_insert base h]
      rfl

/-- Fields that are not in a layer keep their values under it. -/
theorem get?_overlay_of_not_mem {top : Fields} {name : String}
    (h : ∀ f ∈ top, f.1 ≠ name) (base : Fields) :
    get? (overlay base top) name = get? base name := by
  rw [get?_overlay, last?_of_not_mem h, Option.none_or]

end Fields

end HookRules
