/-
Values as they are held, and what is read out of them.

A value that was read has the fields of each object in ascending order, at every
depth (`Json.Normal`), and so have its parts. Fields in ascending order are
written as they stand (`Ascending.ofList_eq`), and so are lists and dictionaries:
they are read back if each of their values is (`list?_written`,
`dictionary?_written`). The other way round, whatever is read out of a record
comes from one of its fields.
-/
import HookRules.Proofs.Json.Record

namespace HookRules

namespace Fields

-- ============================================================ where values come from

variable {α : Type} {fs : List (String × Json)} {name : String}

/-- What is held under a name is the value of one of the fields. -/
theorem mem_of_single? {v : Json} (h : single? fs name = some (some v)) :
    (name, v) ∈ fs := by
  unfold single? at h
  split at h
  · cases h
  · next f hf =>
      obtain ⟨k, w⟩ := f
      cases h
      have hmem : (k, w) ∈ fs.filter (·.1 == name) := by
        rw [hf]
        exact List.mem_singleton_self _
      obtain ⟨hfs, hname⟩ := List.mem_filter.mp hmem
      exact beq_iff_eq.mp hname ▸ hfs
  · cases h

/-- A field with a default gives the default or is read. -/
theorem default?_eq_some {other value : α} {read : Json → Option α}
    (h : default? fs name other read = some value) :
    value = other ∨ ∃ v, (name, v) ∈ fs ∧ read v = some value := by
  unfold default? at h
  split at h
  · next v hv => exact Or.inr ⟨v, mem_of_single? hv, h⟩
  · exact Or.inl (Option.some.inj h).symm
  · cases h

/-- An optional field that has a value is read, and is not null. -/
theorem optionalIn?_eq_some {value : α} {read : Json → Option α}
    (h : optionalIn? .json fs name read = some (some value)) :
    ∃ v, (name, v) ∈ fs ∧ v.isNull = false ∧ read v = some value := by
  unfold optionalIn? at h
  split at h
  · next v hv =>
      cases hnull : v.isNull with
      | true =>
          rw [if_pos ⟨rfl, hnull⟩] at h
          cases h
      | false =>
          rw [if_neg fun hboth => Bool.false_ne_true (hnull.symm.trans hboth.2),
            Option.map_eq_some_iff] at h
          obtain ⟨w, hw, heq⟩ := h
          cases heq
          exact ⟨v, mem_of_single? hv, hnull, hw⟩
  · cases h
  · cases h

-- =============================================================== ascending fields

/-- A field that comes before all others is put at the front. -/
theorem insert_of_lt {name : String} {v : Json} {fs : Fields}
    (h : ∀ f ∈ fs, name < f.1) : insert name v fs = (name, v) :: fs := by
  cases fs with
  | nil => rfl
  | cons f rest =>
      unfold insert
      rw [if_pos (h f (List.mem_cons_self ..))]

/-- Fields in ascending order are written as they stand. -/
theorem Ascending.ofList_eq {fs : Fields} (h : Ascending fs) :
    ofList fs = fs := by
  induction fs with
  | nil => rfl
  | cons f rest ih =>
      obtain ⟨k, v⟩ := f
      obtain ⟨hfirst, hrest⟩ := List.pairwise_cons.mp h
      calc ofList ((k, v) :: rest)
          = Fields.overlay (Fields.insert k v []) rest := rfl
        _ = Fields.insert k v (ofList rest) :=
            overlay_insert_base v (fun f hf => ne_of_lt (hfirst f hf)) []
        _ = Fields.insert k v rest := by rw [ih hrest]
        _ = (k, v) :: rest := insert_of_lt hfirst

end Fields

namespace Json

-- ================================================================== normal values

/-- A value as it is held: the fields of each object are in order, and each name
is there once. -/
def Normal (v : Json) : Prop := ∃ w : Json, w.normalize = v

/-- The functions on items and on fields are maps, which the lemmas on lists
need. -/
theorem normalizeItems_eq (vs : List Json) :
    normalizeItems vs = vs.map normalize := by
  induction vs with
  | nil => rfl
  | cons v vs ih =>
      rw [normalizeItems, ih]
      rfl

theorem normalizeFields_eq (fs : List (String × Json)) :
    normalizeFields fs = fs.map fun f => (f.1, f.2.normalize) := by
  induction fs with
  | nil => rfl
  | cons f fs ih =>
      rw [normalizeFields, ih]
      rfl

/-- The items of a normal list are normal. -/
theorem Normal.item {items : List Json} (h : Normal (.arr items)) {v : Json}
    (hv : v ∈ items) : Normal v := by
  obtain ⟨w, hw⟩ := h
  cases w with
  | arr ws =>
      rw [normalize, normalizeItems_eq] at hw
      cases hw
      obtain ⟨u, -, hu⟩ := List.mem_map.mp hv
      exact ⟨u, hu⟩
  | null | bool _ | num _ | str _ | obj _ =>
      rw [normalize] at hw
      cases hw

/-- The fields of a normal object are in ascending order of their names, so
none is there twice, and their values are normal. -/
theorem Normal.fields {fs : Fields} (h : Normal (.obj fs)) :
    Fields.Ascending fs ∧ ∀ f ∈ fs, Normal f.2 := by
  obtain ⟨w, hw⟩ := h
  cases w with
  | obj gs =>
      rw [normalize, normalizeFields_eq] at hw
      cases hw
      refine ⟨Fields.ascending_ofList _, ?_⟩
      intro f hf
      obtain ⟨g, -, hg⟩ := List.mem_map.mp (Fields.mem_ofList hf)
      exact ⟨g.2, congrArg Prod.snd hg⟩
  | null | bool _ | num _ | str _ | arr _ =>
      rw [normalize] at hw
      cases hw

mutual

/-- Putting a normal value in order changes nothing. -/
theorem Normal.normalize_eq : ∀ {v : Json}, Normal v → v.normalize = v
  | .null, _ | .bool _, _ | .num _, _ | .str _, _ => rfl
  | .arr items, h => by
      rw [normalize, normalizeItems_self items fun v hv => h.item hv]
  | .obj fields, h => by
      rw [normalize, normalizeFields_self fields h.fields.2,
        h.fields.1.ofList_eq]

/-- Normal items stay as they are. -/
theorem normalizeItems_self : ∀ vs : List Json, (∀ v ∈ vs, Normal v) →
    normalizeItems vs = vs
  | [], _ => rfl
  | v :: vs, h => by
      obtain ⟨hv, hvs⟩ := List.forall_mem_cons.mp h
      rw [normalizeItems, hv.normalize_eq, normalizeItems_self vs hvs]

/-- So do fields with normal values; putting them in order is another matter. -/
theorem normalizeFields_self : ∀ fs : List (String × Json),
    (∀ f ∈ fs, Normal f.2) → normalizeFields fs = fs
  | [], _ => rfl
  | (k, v) :: fs, h => by
      obtain ⟨hv, hfs⟩ := List.forall_mem_cons.mp h
      rw [normalizeFields, Normal.normalize_eq hv, normalizeFields_self fs hfs]

end

/-- The values of a record are normal, whether it is an object or a list. -/
theorem Normal.record {v : Json} (h : Normal v) {names : List String}
    {fs : List (String × Json)}
    (hfs : v.recordIn? .json names = some fs) : ∀ f ∈ fs, Normal f.2 := by
  unfold recordIn? at hfs
  split at hfs
  · cases hfs
    exact h.fields.2
  · split at hfs
    · cases hfs
      intro f hf
      exact h.item (List.of_mem_zip hf).2
    · cases hfs
  · cases hfs

-- ========================================================= lists and dictionaries

variable {α β : Type}

/-- A list is read if its head is and its tail is. Readers of lists are taken
apart by this one. -/
theorem mapM_cons_eq_some {read : α → Option β} {x : α} {xs : List α}
    {ys : List β} :
    (x :: xs).mapM read = some ys
      ↔ ∃ y rest, read x = some y ∧ xs.mapM read = some rest
        ∧ y :: rest = ys := by
  simp [List.mapM_cons, Option.bind_eq_some_iff]

/-- A list is read back item by item. -/
theorem mapM_map_eq_some {write : β → α} {read : α → Option β} {ys : List β}
    (h : ∀ y ∈ ys, read (write y) = some y) :
    (ys.map write).mapM read = some ys := by
  induction ys with
  | nil => rfl
  | cons y ys ih =>
      obtain ⟨hfirst, hrest⟩ := List.forall_mem_cons.mp h
      exact mapM_cons_eq_some.mpr ⟨y, ys, hfirst, ih hrest, rfl⟩

/-- Every item of a list that is read is the reading of an item. -/
theorem exists_of_mem_mapM {read : α → Option β} {xs : List α} {ys : List β}
    (h : xs.mapM read = some ys) : ∀ y ∈ ys, ∃ x ∈ xs, read x = some y := by
  induction xs generalizing ys with
  | nil =>
      cases h
      intro y hy
      cases hy
  | cons x xs ih =>
      obtain ⟨y, rest, hx, hrest, rfl⟩ := mapM_cons_eq_some.mp h
      refine List.forall_mem_cons.mpr ⟨⟨x, List.mem_cons_self .., hx⟩, ?_⟩
      intro z hz
      obtain ⟨w, hw, hread⟩ := ih hrest z hz
      exact ⟨w, List.mem_cons_of_mem _ hw, hread⟩

/-- A list of which every item can be read is read without leaving any out. -/
theorem filterMap_of_mapM {read : α → Option β} {xs : List α} {ys : List β}
    (h : xs.mapM read = some ys) : xs.filterMap read = ys := by
  induction xs generalizing ys with
  | nil =>
      cases h
      rfl
  | cons x xs ih =>
      obtain ⟨y, rest, hx, hrest, rfl⟩ := mapM_cons_eq_some.mp h
      rw [List.filterMap_cons_some hx, ih hrest]

/-- A list whose items are read back is read back. -/
theorem list?_written {write : α → Json} {read : Json → Option α} {xs : List α}
    (h : ∀ x ∈ xs, read (write x) = some x) :
    list? read (.arr (xs.map write)) = some xs := mapM_map_eq_some h

/-- What is read from a list comes from its items, each from one of them. -/
theorem list?_eq_some {read : Json → Option α} {v : Json} {xs : List α}
    (h : list? read v = some xs) :
    ∃ items, v = .arr items ∧ ∀ x ∈ xs, ∃ w ∈ items, read w = some x := by
  cases v with
  | arr items => exact ⟨items, rfl, exists_of_mem_mapM h⟩
  | null | bool _ | num _ | str _ | obj _ => cases h

/-- A dictionary with its keys in order is read back if its values are. -/
theorem dictionary?_written {write : α → Json} {read : Json → Option α}
    {xs : List (String × α)} (hkeys : (xs.map (·.1)).Pairwise (· < ·))
    (hread : ∀ x, read (write x) = some x) :
    dictionary? read (.ofFields (xs.map fun x => (x.1, write x.2)))
      = some xs := by
  have hasc : Fields.Ascending (xs.map fun x => (x.1, write x.2)) :=
    List.pairwise_map.mpr (List.pairwise_map.mp hkeys)
  unfold ofFields
  rw [hasc.ofList_eq]
  apply mapM_map_eq_some
  intro x _
  dsimp only
  rw [hread]
  rfl

/-- The keys of a dictionary are the names of its fields. -/
theorem keys_of_mapM {read : Json → Option α} {fs : Fields}
    {xs : List (String × α)}
    (h : (fs.mapM fun f => (read f.2).map (f.1, ·)) = some xs) :
    xs.map (·.1) = fs.map (·.1) := by
  induction fs generalizing xs with
  | nil =>
      cases h
      rfl
  | cons f fs ih =>
      obtain ⟨x, rest, hf, hrest, rfl⟩ := mapM_cons_eq_some.mp h
      obtain ⟨value, -, rfl⟩ := Option.map_eq_some_iff.mp hf
      rw [List.map_cons, List.map_cons, ih hrest]

/-- A dictionary that is read from a normal value has its keys in order. -/
theorem Normal.dictionary_keys {v : Json} (hv : Normal v)
    {read : Json → Option α} {xs : List (String × α)}
    (h : dictionary? read v = some xs) : (xs.map (·.1)).Pairwise (· < ·) := by
  cases v with
  | obj fs =>
      rw [keys_of_mapM h]
      exact List.pairwise_map.mpr hv.fields.1
  | null | bool _ | num _ | str _ | arr _ => cases h

end Json

end HookRules
