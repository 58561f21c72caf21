/-
Reading the fields of written objects.

A written object holds each name once (`Fields.Ascending`), so none of its
fields is refused for being given twice, and what is read under a name is what
the object holds there. A field that is written only if there is a value is read
back as that value, or as its absence, if what is written is not null and can be
read (`Ascending.optional?_written`).
-/
import HookRules.Proofs.Json.Overlay

namespace HookRules

namespace Fields

-- ============================================================= single names

/-- The fields of a written object are in ascending order. -/
theorem ascending_ofList (fs : List (String × Json)) : Ascending (ofList fs) :=
  Ascending.nil.overlay fs

/-- No name is given twice by fields in ascending order. -/
theorem Ascending.single?_eq {fs : Fields} (h : Ascending fs) (name : String) :
    single? fs name = some (get? fs name) := by
  induction fs with
  | nil => rfl
  | cons f rest ih =>
      obtain ⟨k, v⟩ := f
      obtain ⟨hfirst, hrest⟩ := List.pairwise_cons.mp h
      by_cases hk : name = k
      · have hnone : rest.filter (·.1 == name) = [] := by
          rw [List.filter_eq_nil_iff]
          intro g hg heq
          exact ne_of_gt (hfirst g hg) (hk ▸ beq_iff_eq.mp heq)
        rw [get?_cons, if_pos hk]
        unfold single?
        have hfirst : ((k, v).1 == name) = true := beq_iff_eq.mpr hk.symm
        rw [List.filter_cons, if_pos hfirst, hnone]
      · rw [get?_cons, if_neg hk, ← ih hrest]
        unfold single?
        have hother : ¬ ((k, v).1 == name) = true :=
          fun heq => hk (beq_iff_eq.mp heq).symm
        rw [List.filter_cons, if_neg hother]

-- =============================================================== read fields

variable {α : Type} {fs : Fields} {name : String}

/-- A required field is read if it is there. -/
theorem Ascending.required?_eq (h : Ascending fs) (name : String)
    (read : Json → Option α) :
    required? fs name read = ((Json.obj fs).get? name).bind read := by
  unfold required?
  rw [h.single?_eq]
  show _ = (get? fs name).bind read
  cases get? fs name with
  | none => rfl
  | some v => rfl

/-- An optional field that is written from a value, never as null. -/
theorem Ascending.optional?_eq (h : Ascending fs) {value : Option α}
    {write : α → Json} (read : Json → Option α)
    (hvalue : (Json.obj fs).get? name = value.map write)
    (hnull : ∀ v, (write v).isNull = false) :
    optional? fs name read
      = value.elim (some none) fun v => (read (write v)).map some := by
  unfold optional? optionalIn?
  rw [h.single?_eq, show get? fs name = _ from hvalue]
  cases value with
  | none => rfl
  | some v =>
      have hnot : ¬ (DataFormat.json = .json ∧ (write v).isNull = true) := by
        rw [hnull v]
        exact fun hboth => Bool.false_ne_true hboth.2
      exact if_neg hnot

/-- A value that can be read when it is written is read back, and so is its
absence. -/
theorem Ascending.optionalIn?_written (h : Ascending fs) {value : Option α}
    {write : α → Json} {read : Json → Option α}
    (hvalue : (Json.obj fs).get? name = value.map write)
    (hback : ∀ v, value = some v →
      (write v).isNull = false ∧ read (write v) = some v) :
    optionalIn? .json fs name read = some value := by
  unfold optionalIn?
  rw [h.single?_eq, show get? fs name = _ from hvalue]
  cases value with
  | none => rfl
  | some v =>
      obtain ⟨hnull, hread⟩ := hback v rfl
      dsimp only [Option.map_some]
      rw [hnull, hread]
      rfl

/-- The same for a field of which every value can be read. -/
theorem Ascending.optional?_written (h : Ascending fs) {value : Option α}
    {write : α → Json} {read : Json → Option α}
    (hvalue : (Json.obj fs).get? name = value.map write)
    (hnull : ∀ v, (write v).isNull = false)
    (hread : ∀ v, read (write v) = some v) :
    optional? fs name read = some value :=
  h.optionalIn?_written hvalue fun v _ => ⟨hnull v, hread v⟩

/-- A field with a default is read if it is there. -/
theorem Ascending.default?_eq (h : Ascending fs) (name : String) (other : α)
    (read : Json → Option α) :
    default? fs name other read
      = ((Json.obj fs).get? name).elim (some other) read := by
  unfold default?
  rw [h.single?_eq]
  show _ = (get? fs name).elim (some other) read
  cases get? fs name with
  | none => rfl
  | some v => rfl

/-- A field that is always written is read back, whatever its default is. -/
theorem Ascending.default?_written (h : Ascending fs) {value : α} {w : Json}
    {read : Json → Option α} (other : α)
    (hvalue : (Json.obj fs).get? name = some w) (hread : read w = some value) :
    default? fs name other read = some value := by
  rw [h.default?_eq, hvalue]
  exact hread

end Fields

/-- A written object has its fields in ascending order. -/
theorem Json.ofFields_eq_obj (fs : List (String × Json)) :
    ∃ gs, ofFields fs = .obj gs ∧ Fields.Ascending gs :=
  ⟨_, rfl, Fields.ascending_ofList fs⟩

end HookRules
