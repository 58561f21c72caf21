/-
Tables from text keys to values.

A table is a list of pairs that is searched from the front. Setting a key
changes the first pair of that key, or adds one at the end, so that keys stay
in the order in which they were set first.
-/
namespace HookRules

/-- Keys with values. -/
abbrev Table (α : Type) := List (String × α)

namespace Table

variable {α : Type}

/-- The value of a key. -/
def get? (t : Table α) (key : String) : Option α := t.lookup key

/-- Sets the value of a key. -/
def set (t : Table α) (key : String) (value : α) : Table α :=
  match t with
  | [] => [(key, value)]
  | (k, v) :: rest => if k = key then (key, value) :: rest else (k, v) :: set rest key value

@[simp] theorem get?_nil (key : String) : Table.get? ([] : Table α) key = none := rfl

theorem get?_cons (k : String) (v : α) (t : Table α) (key : String) :
    Table.get? ((k, v) :: t) key = if key = k then some v else Table.get? t key := by
  unfold get?
  rw [List.lookup_cons]
  by_cases h : key = k
  · rw [if_pos h, beq_iff_eq.mpr h]
  · rw [if_neg h, beq_false_of_ne h]

/-- A key that was set has its new value and every other key its old one. -/
theorem get?_set (t : Table α) (key : String) (value : α) (other : String) :
    (t.set key value).get? other = if other = key then some value else t.get? other := by
  induction t with
  | nil => simp [set, get?_cons]
  | cons p t ih =>
    obtain ⟨k, v⟩ := p
    by_cases hk : k = key
    · subst hk
      simp only [set, if_true, get?_cons]
      split <;> simp_all
    · simp only [set, if_neg hk, get?_cons, ih]
      split <;> simp_all

theorem set_ne_nil (t : Table α) (key : String) (value : α) : t.set key value ≠ [] := by
  unfold set
  split
  · exact List.cons_ne_nil _ _
  · split
    · exact List.cons_ne_nil _ _
    · exact List.cons_ne_nil _ _

/-- In a table of tables, a pair of keys that was set has its new value and every other pair
its old one. -/
theorem get?_bind_set (t : Table (Table α)) (outer inner : String) (value : α)
    (outer' inner' : String) :
    ((t.set outer (((t.get? outer).getD []).set inner value)).get? outer').bind (·.get? inner')
      = if outer' = outer ∧ inner' = inner then some value
        else (t.get? outer').bind (·.get? inner') := by
  rw [get?_set]
  by_cases houter : outer' = outer
  · subst houter
    rw [if_pos rfl, Option.bind_some, get?_set]
    cases t.get? outer' with
    | none => simp
    | some entries => simp
  · rw [if_neg houter, if_neg fun h => houter h.1]

end Table

end HookRules
