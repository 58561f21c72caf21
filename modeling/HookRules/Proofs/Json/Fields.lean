/-
Looking up the fields of written objects.

An object is written from a list of fields in any order, some of which are
there only if they have a value. `Fields.last?` reads such a list without the
order that the object brings it into: the value of a name is the one that the
list gives it last. `Fields.get?_ofList` says that this is what the object
holds, so that what a written record has under a name is computed from the list
that it is written from.

`Json.at?` follows a path of names into a value, and `Json.mentions` says
whether a name is that of any field at any depth.
-/
import HookRules.Json.Decode

namespace HookRules

namespace Fields

-- ================================================================= look-up

/-- The first field of a name is the one that is found. An object has one field
of each name, but lists on the way to it may have more. -/
theorem get?_cons (k : String) (v : Json) (fs : Fields) (name : String) :
    get? ((k, v) :: fs) name = if name = k then some v else get? fs name := by
  unfold get?
  rw [List.lookup_cons]
  by_cases h : name = k
  · rw [if_pos h, beq_iff_eq.mpr h]
  · rw [if_neg h, beq_false_of_ne h]

/-- A field that was set has its new value and every other field its old one. -/
theorem get?_insert (name : String) (v : Json) (fs : Fields) (other : String) :
    get? (insert name v fs) other
      = if other = name then some v else get? fs other := by
  induction fs with
  | nil => exact get?_cons name v [] other
  | cons f rest ih =>
      obtain ⟨k, w⟩ := f
      unfold insert
      split
      · rw [get?_cons]
      · split
        · next h =>
            subst h
            rw [get?_cons, get?_cons]
            by_cases ho : other = name
            · rw [if_pos ho, if_pos ho]
            · rw [if_neg ho, if_neg ho, if_neg ho]
        · next h =>
            rw [get?_cons, get?_cons, ih]
            by_cases ho : other = k
            · have hne : other ≠ name := fun he => h (he.symm.trans ho)
              rw [if_pos ho, if_neg hne, if_pos ho]
            · rw [if_neg ho, if_neg ho]

/-- The value that a list of fields gives to a name last. -/
def last? : List (String × Json) → String → Option Json
  | [], _ => none
  | (k, v) :: rest, name =>
      (last? rest name).or (if name = k then some v else none)

@[simp] theorem last?_nil (name : String) : last? [] name = none := rfl

@[simp] theorem last?_cons (k : String) (v : Json)
    (rest : List (String × Json)) (name : String) :
    last? ((k, v) :: rest) name
      = (last? rest name).or (if name = k then some v else none) := rfl

/-- What comes later in a list of fields counts, so the second list is asked
first. -/
@[simp] theorem last?_append (fs gs : List (String × Json)) (name : String) :
    last? (fs ++ gs) name = (last? gs name).or (last? fs name) := by
  induction fs with
  | nil =>
      rw [List.nil_append, last?_nil, Option.or_none]
  | cons f rest ih =>
      obtain ⟨k, v⟩ := f
      rw [List.cons_append, last?_cons, ih, last?_cons, Option.or_assoc]

/-- A field that is left out without a value gives nothing to its name, and
none to others in any case. -/
@[simp] theorem last?_ofOption {α : Type} (k : String) (write : α → Json)
    (value : Option α) (name : String) :
    last? (ofOption k write value) name
      = if name = k then value.map write else none := by
  cases value with
  | none =>
      rw [Option.map_none, ite_self]
      rfl
  | some v => exact Option.none_or

/-- A field that is left out under a condition. -/
@[simp] theorem last?_unless (c : Prop) [Decidable c] (k : String) (v : Json)
    (name : String) :
    last? (if c then [] else [(k, v)]) name
      = if name = k then (if c then none else some v) else none := by
  by_cases hc : c
  · rw [if_pos hc, if_pos hc, ite_self, last?_nil]
  · rw [if_neg hc, if_neg hc, last?_cons, last?_nil, Option.none_or]

/-- A name that some field has gets a value. -/
theorem last?_of_mem {fs : List (String × Json)} {name : String}
    (h : name ∈ fs.map (·.1)) : ∃ v, last? fs name = some v := by
  induction fs with
  | nil => cases h
  | cons f rest ih =>
      obtain ⟨k, v⟩ := f
      rw [last?_cons]
      rcases List.mem_cons.mp h with rfl | hrest
      · rw [if_pos rfl]
        cases last? rest name with
        | none => exact ⟨v, rfl⟩
        | some w => exact ⟨w, rfl⟩
      · obtain ⟨w, hw⟩ := ih hrest
        exact ⟨w, by rw [hw, Option.some_or]⟩

/-- Fields set one after the other over others: the last of them that has the
name counts, and the old value if none does. -/
theorem get?_overlay (base top : Fields) (name : String) :
    get? (overlay base top) name = (last? top name).or (get? base name) := by
  unfold overlay
  induction top generalizing base with
  | nil => rfl
  | cons f rest ih =>
      obtain ⟨k, v⟩ := f
      rw [List.foldl_cons, ih, get?_insert, last?_cons, Option.or_assoc]
      by_cases h : name = k
      · rw [if_pos h, if_pos h, Option.some_or]
      · rw [if_neg h, if_neg h, Option.none_or]

/-- An object holds under a name what its list of fields gives it last. -/
theorem get?_ofList (fs : List (String × Json)) (name : String) :
    get? (ofList fs) name = last? fs name :=
  (get?_overlay [] fs name).trans Option.or_none

-- ============================================================== membership

/-- To set a field adds no other one. -/
theorem mem_insert {name : String} {v : Json} {fs : Fields}
    {f : String × Json} (h : f ∈ insert name v fs) :
    f = (name, v) ∨ f ∈ fs := by
  induction fs with
  | nil => exact Or.inl (List.mem_singleton.mp h)
  | cons g rest ih =>
      obtain ⟨k, w⟩ := g
      unfold insert at h
      split at h
      · exact List.mem_cons.mp h
      · split at h
        · rcases List.mem_cons.mp h with h | h
          · exact Or.inl h
          · exact Or.inr (List.mem_cons_of_mem _ h)
        · rcases List.mem_cons.mp h with rfl | h
          · exact Or.inr (List.mem_cons_self ..)
          · rcases ih h with h | h
            · exact Or.inl h
            · exact Or.inr (List.mem_cons_of_mem _ h)

/-- An object has no fields but those of its list. -/
theorem mem_ofList {fs : List (String × Json)} {f : String × Json}
    (h : f ∈ ofList fs) : f ∈ fs := by
  suffices key : ∀ (fs : List (String × Json)) (acc : Fields),
      f ∈ fs.foldl (fun acc f => insert f.1 f.2 acc) acc →
      f ∈ fs ∨ f ∈ acc by
    rcases key fs [] h with h | h
    · exact h
    · cases h
  intro fs
  induction fs with
  | nil => exact fun acc h => Or.inr h
  | cons g rest ih =>
      intro acc h
      rcases ih _ h with h | h
      · exact Or.inl (List.mem_cons_of_mem _ h)
      · rcases mem_insert h with h | h
        · exact Or.inl (h ▸ List.mem_cons_self ..)
        · exact Or.inr h

end Fields

namespace Json

/-- The same for a written object. As a rewriting rule it computes what a
record has under a name. -/
@[simp] theorem get?_ofFields (fs : List (String × Json)) (name : String) :
    (ofFields fs).get? name = Fields.last? fs name :=
  Fields.get?_ofList fs name

-- =================================================================== paths

/-- The value at the end of a path of names. -/
def at? (v : Json) : List String → Option Json
  | [] => some v
  | name :: path => (v.get? name).bind (·.at? path)

@[simp] theorem at?_nil (v : Json) : v.at? [] = some v := rfl

/-- A path goes through the field of its first name, if there is one. -/
@[simp] theorem at?_cons (v : Json) (name : String) (path : List String) :
    v.at? (name :: path) = (v.get? name).bind (·.at? path) := rfl

-- ======================================================= names at any depth

mutual

/-- Whether a name is that of a field, at any depth. -/
def mentions (name : String) : Json → Bool
  | .arr items => mentionsItems name items
  | .obj fields => mentionsFields name fields
  | .null => false
  | .bool _ => false
  | .num _ => false
  | .str _ => false

def mentionsItems (name : String) : List Json → Bool
  | [] => false
  | v :: vs => mentions name v || mentionsItems name vs

def mentionsFields (name : String) : List (String × Json) → Bool
  | [] => false
  | (k, v) :: fs => k == name || mentions name v || mentionsFields name fs

end

end Json

namespace Fields

/-- No field has a name, at any depth. -/
def Silent (name : String) (fs : List (String × Json)) : Prop :=
  ∀ f ∈ fs, f.1 ≠ name ∧ f.2.mentions name = false

theorem Silent.nil (name : String) : Silent name [] := by
  intro f hf
  cases hf

/-- A field is silent about a name if it has another one and its value does not
mention it. -/
theorem Silent.cons {name k : String} {v : Json} {fs : List (String × Json)}
    (hk : k ≠ name) (hv : v.mentions name = false) (hfs : Silent name fs) :
    Silent name ((k, v) :: fs) :=
  List.forall_mem_cons.mpr ⟨⟨hk, hv⟩, hfs⟩

/-- Written records are lists put together; they are silent about a name if
their parts are. -/
theorem Silent.append {name : String} {fs gs : List (String × Json)}
    (hfs : Silent name fs) (hgs : Silent name gs) : Silent name (fs ++ gs) := by
  intro f hf
  rcases List.mem_append.mp hf with h | h
  · exact hfs f h
  · exact hgs f h

/-- A field that is written from a value, if there is one. -/
theorem Silent.ofOption {α : Type} {name k : String} {write : α → Json}
    {value : Option α} (hk : k ≠ name)
    (hv : ∀ v, value = some v → (write v).mentions name = false) :
    Silent name (ofOption k write value) := by
  cases value with
  | none => exact Silent.nil name
  | some v => exact Silent.cons hk (hv v rfl) (Silent.nil name)

end Fields

/-- An object mentions a name only if one of the fields that it is written from
does. -/
theorem Json.mentions_ofFields {name : String} {fs : List (String × Json)}
    (h : Fields.Silent name fs) : (ofFields fs).mentions name = false := by
  suffices key : ∀ gs : Fields, Fields.Silent name gs →
      mentionsFields name gs = false by
    show mentions name (.obj (Fields.ofList fs)) = false
    rw [mentions]
    exact key _ fun f hf => h f (Fields.mem_ofList hf)
  intro gs hgs
  induction gs with
  | nil => rfl
  | cons f rest ih =>
      obtain ⟨k, v⟩ := f
      obtain ⟨hf, hrest⟩ := List.forall_mem_cons.mp hgs
      rw [mentionsFields, ih hrest, hf.2, beq_false_of_ne hf.1]
      rfl

end HookRules
