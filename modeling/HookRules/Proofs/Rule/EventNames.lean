/-
The names of events that a rule lists.

A rule may list its events in either spelling, with blanks around the names, in
any order and more than once. Its filter keeps the normal names only, as a set.
Two facts say that nothing is lost and that there is nothing left to bring into
order. A filter applies to a kind exactly if one of the listed names, without
the blanks around it, stands for every event or is one of the two spellings of
the kind (`appliesTo_ofNames`). And the filter of the names of a filter is that
filter (`ofNames_names`), since normal names are their own normal names and an
ascending list is determined by its members.
-/
import HookRules.Rule.Basic
import Mathlib.Data.List.DropRight
import Mathlib.Data.List.Sort
import Mathlib.Data.String.Basic

namespace HookRules

-- ====================================================================== trimming

namespace Text

/-- What is left of a text has no blank at its start: it starts as the text
does after its leading blanks. -/
theorem dropWhile_trimChars (cs : List Char) :
    (trimChars cs).dropWhile isBlank = trimChars cs := by
  rw [List.dropWhile_eq_self_iff]
  intro hpos
  have hstart : trimChars cs <+: cs.dropWhile isBlank :=
    List.rdropWhile_prefix isBlank _
  have hlen : 0 < (cs.dropWhile isBlank).length := hpos.trans_le hstart.length_le
  have hhead : (trimChars cs)[0] = (cs.dropWhile isBlank)[0] :=
    hstart.getElem hpos
  rw [hhead]
  exact List.dropWhile_get_zero_not isBlank cs hlen

/-- A trimmed text has no blanks to take off. -/
theorem trim_trim (s : String) : trim (trim s) = trim s := by
  unfold trim
  rw [String.toList_ofList]
  congr 1
  calc trimChars (trimChars s.toList)
      = ((trimChars s.toList).dropWhile isBlank).rdropWhile isBlank := rfl
    _ = (trimChars s.toList).rdropWhile isBlank := by rw [dropWhile_trimChars]
    _ = trimChars s.toList := List.rdropWhile_idempotent isBlank _

end Text

-- =================================================================== sorted sets

/-- Insertion adds one member, also if it is there already. -/
theorem mem_insertSorted {s t : String} {ss : List String} :
    t ∈ insertSorted s ss ↔ t = s ∨ t ∈ ss := by
  induction ss with
  | nil => simp [insertSorted]
  | cons u ss ih =>
      unfold insertSorted
      split
      · exact List.mem_cons
      · split
        · next heq =>
            subst heq
            simp
        · rw [List.mem_cons, ih, List.mem_cons, or_left_comm]

/-- Insertion keeps a list in strictly ascending order: a name that is there is
not put in again. -/
theorem pairwise_insertSorted (s : String) {ss : List String}
    (h : ss.Pairwise (· < ·)) : (insertSorted s ss).Pairwise (· < ·) := by
  induction ss with
  | nil => exact List.pairwise_singleton _ _
  | cons u ss ih =>
      obtain ⟨hfirst, hrest⟩ := List.pairwise_cons.mp h
      unfold insertSorted
      split
      · next hlt =>
          refine List.pairwise_cons.mpr ⟨?_, h⟩
          intro t ht
          rcases List.mem_cons.mp ht with rfl | ht
          · exact hlt
          · exact lt_trans hlt (hfirst t ht)
      · next hge =>
          split
          · exact h
          · next hne =>
              refine List.pairwise_cons.mpr ⟨?_, ih hrest⟩
              intro t ht
              rcases mem_insertSorted.mp ht with rfl | ht
              · exact lt_of_le_of_ne (not_lt.mp hge) (Ne.symm hne)
              · exact hfirst t ht

/-- The set of a longer list is made by one more insertion, which is what the
inductions below go by. -/
theorem sortedSet_append (ss : List String) (s : String) :
    sortedSet (ss ++ [s]) = insertSorted s (sortedSet ss) := by
  unfold sortedSet
  rw [List.foldl_append]
  rfl

/-- A sorted set has the members of its list. -/
theorem mem_sortedSet {s : String} {ss : List String} :
    s ∈ sortedSet ss ↔ s ∈ ss := by
  induction ss using List.reverseRecOn with
  | nil => rfl
  | append_singleton ss t ih =>
      rw [sortedSet_append, mem_insertSorted, ih, List.mem_append,
        List.mem_singleton, or_comm]

/-- A sorted set is strictly ascending, so it is determined by its members. -/
theorem pairwise_sortedSet (ss : List String) :
    (sortedSet ss).Pairwise (· < ·) := by
  induction ss using List.reverseRecOn with
  | nil => exact List.Pairwise.nil
  | append_singleton ss t ih =>
      rw [sortedSet_append]
      exact pairwise_insertSorted t ih

/-- Lists with the same members have the same sorted set. -/
theorem sortedSet_congr {ss ts : List String} (h : ∀ s, s ∈ ss ↔ s ∈ ts) :
    sortedSet ss = sortedSet ts := by
  refine (pairwise_sortedSet ss).eq_of_mem_iff (pairwise_sortedSet ts) ?_
  intro s
  rw [mem_sortedSet, mem_sortedSet]
  exact h s

-- ================================================================ names of kinds

namespace EventKind

/-- The names of a kind are its two spellings. -/
theorem ofName?_eq_some_iff {name : String} {k : EventKind} :
    ofName? name = some k ↔ name = k.ruleName ∨ name = k.wireName := by
  constructor
  · intro h
    unfold ofName? at h
    have hspelling := List.find?_some h
    rcases (Bool.or_eq_true ..).mp hspelling with heq | heq
    · exact Or.inl (beq_iff_eq.mp heq).symm
    · exact Or.inr (beq_iff_eq.mp heq).symm
  · rintro (rfl | rfl)
    · exact ofName?_ruleName k
    · exact ofName?_wireName k

/-- Kinds have different names in the spelling of rules. -/
theorem ruleName_injective {k l : EventKind} (h : k.ruleName = l.ruleName) :
    k = l := by
  have hname := ofName?_ruleName k
  rw [h, ofName?_ruleName] at hname
  exact (Option.some.inj hname).symm

/-- None of them is the name that stands for every event. -/
theorem ruleName_ne_everyEvent (k : EventKind) :
    k.ruleName ≠ EventFilter.everyEvent := by cases k <;> decide

@[simp] theorem trim_ruleName (k : EventKind) :
    Text.trim k.ruleName = k.ruleName := by cases k <;> decide

end EventKind

namespace EventFilter

-- ================================================================== normal names

/-- A name in either spelling becomes the name in the spelling of rules. -/
theorem normalName_of_some {s : String} {k : EventKind}
    (h : EventKind.ofName? (Text.trim s) = some k) :
    normalName s = k.ruleName := by
  simp only [normalName, h]

/-- A name of no event is kept, without the blanks around it: it may be the one
that stands for all, and otherwise it fits nothing. -/
theorem normalName_of_none {s : String}
    (h : EventKind.ofName? (Text.trim s) = none) :
    normalName s = Text.trim s := by
  simp only [normalName, h]

/-- A normal name is its own normal name. -/
@[simp] theorem normalName_normalName (s : String) :
    normalName (normalName s) = normalName s := by
  cases h : EventKind.ofName? (Text.trim s) with
  | some k =>
      rw [normalName_of_some h]
      apply normalName_of_some
      rw [EventKind.trim_ruleName, EventKind.ofName?_ruleName]
  | none =>
      have htrim : Text.trim (Text.trim s) = Text.trim s := Text.trim_trim s
      rw [normalName_of_none h, normalName_of_none (htrim.symm ▸ h), htrim]

/-- The names with a kind's normal name are its two spellings, with any blanks
around them. -/
theorem normalName_eq_ruleName_iff {s : String} {k : EventKind} :
    normalName s = k.ruleName
      ↔ Text.trim s = k.ruleName ∨ Text.trim s = k.wireName := by
  rw [← EventKind.ofName?_eq_some_iff]
  constructor
  · intro hname
    cases h : EventKind.ofName? (Text.trim s) with
    | some l =>
        rw [normalName_of_some h] at hname
        rw [EventKind.ruleName_injective hname]
    | none =>
        rw [normalName_of_none h] at hname
        rw [hname, EventKind.ofName?_ruleName] at h
        cases h
  · exact normalName_of_some

/-- The name that stands for every event is no name of a kind. -/
theorem normalName_eq_everyEvent_iff {s : String} :
    normalName s = everyEvent ↔ Text.trim s = everyEvent := by
  constructor
  · intro hname
    cases h : EventKind.ofName? (Text.trim s) with
    | some k =>
        rw [normalName_of_some h] at hname
        exact absurd hname k.ruleName_ne_everyEvent
    | none => exact (normalName_of_none h).symm.trans hname
  · intro htrim
    have hnone : EventKind.ofName? (Text.trim s) = none := by
      rw [htrim]
      decide
    rw [normalName_of_none hnone, htrim]

-- ======================================================================= filters

/-- The names of a filter are the normal names of those that were listed. -/
theorem mem_names_ofNames {names : List String} {t : String} :
    t ∈ (ofNames names).names ↔ ∃ s ∈ names, normalName s = t :=
  mem_sortedSet.trans List.mem_map

/-- A filter applies to a kind exactly if a listed name, without the blanks
around it, stands for every event or is a spelling of the kind. -/
theorem appliesTo_ofNames (names : List String) (k : EventKind) :
    (ofNames names).appliesTo k = true
      ↔ ∃ s ∈ names, Text.trim s = everyEvent
        ∨ Text.trim s = k.ruleName ∨ Text.trim s = k.wireName := by
  unfold appliesTo
  rw [Bool.or_eq_true_iff, List.contains_iff_mem, List.contains_iff_mem,
    mem_names_ofNames, mem_names_ofNames]
  simp only [normalName_eq_everyEvent_iff, normalName_eq_ruleName_iff,
    ← exists_or, ← and_or_left]

/-- The filter of the names of a filter is that filter. -/
theorem ofNames_names (names : List String) :
    ofNames (ofNames names).names = ofNames names := by
  refine congrArg EventFilter.mk (sortedSet_congr fun t => ?_)
  rw [List.mem_map, List.mem_map]
  constructor
  · rintro ⟨u, hu, rfl⟩
    obtain ⟨s, hs, rfl⟩ := mem_names_ofNames.mp hu
    exact ⟨s, hs, (normalName_normalName s).symm⟩
  · rintro ⟨s, hs, rfl⟩
    exact ⟨normalName s, mem_names_ofNames.mpr ⟨s, hs, rfl⟩,
      normalName_normalName s⟩

end EventFilter

end HookRules
