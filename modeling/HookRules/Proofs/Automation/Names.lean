/-
The names of callables.

A name is written with dots between the identifiers of its module path and a colon
in front of its function (`WellFormed`). Identifiers hold neither mark. So what is
cut at the dots of a module path are the identifiers that it was put together from
(`isModulePath_iff`), and the first colon of a text is the only one that can divide
it (`WellFormed.colon_not_mem`). Reading a text finds exactly the name that it
spells, and nothing if it spells none (`ofText?_eq_some_iff`).
-/
import HookRules.Automation.Entrypoint
import Mathlib.Data.List.TakeDrop

namespace HookRules

namespace EntrypointName

/-- An ASCII letter or an underscore, and behind it letters, digits and
underscores. -/
def Identifier (s : String) : Prop :=
  ∃ c rest, s.toList = c :: rest ∧ (c.isAlpha = true ∨ c = '_')
    ∧ ∀ d ∈ rest, d.isAlphanum = true ∨ d = '_'

/-- The module path is identifiers with dots between them, the function is one
identifier. -/
structure WellFormed (n : EntrypointName) : Prop where
  module : ∃ parts : List String, parts ≠ [] ∧ (∀ p ∈ parts, Identifier p)
    ∧ n.module = ".".intercalate parts
  function : Identifier n.function

/-- A text is that of a name, blanks around it left out. -/
def Spells (text : String) (n : EntrypointName) : Prop :=
  n.WellFormed ∧ Text.trim text = n.text

-- =================================================================== identifiers

/-- The test of an identifier is what the grammar of names says of it. -/
theorem isIdentifier_iff (s : String) :
    isIdentifier s.toList = true ↔ Identifier s := by
  unfold Identifier
  cases s.toList with
  | nil => exact ⟨nofun, nofun⟩
  | cons c rest =>
      have hgood : isIdentifier (c :: rest) = true
          ↔ (c.isAlpha = true ∨ c = '_')
            ∧ ∀ d ∈ rest, d.isAlphanum = true ∨ d = '_' := by
        simp [isIdentifier]
      constructor
      · exact fun h => ⟨c, rest, rfl, hgood.mp h⟩
      · rintro ⟨_, _, heq, h⟩
        cases heq
        exact hgood.mpr h

/-- An identifier has no mark in it that separates names. -/
theorem Identifier.not_mem {s : String} (h : Identifier s) {mark : Char}
    (hmark : mark.isAlphanum = false) (hline : mark ≠ '_') :
    mark ∉ s.toList := by
  obtain ⟨c, rest, hs, hc, hrest⟩ := h
  rw [hs]
  intro hmem
  have hall : mark.isAlphanum = true ∨ mark = '_' := by
    rcases List.mem_cons.mp hmem with rfl | hmem
    · exact hc.imp_left fun h => by rw [Char.isAlphanum, h, Bool.true_or]
    · exact hrest mark hmem
  rcases hall with h | h
  · rw [hmark] at h
    cases h
  · exact hline h

-- ================================================================== module paths

/-- The characters of dotted identifiers. -/
theorem toList_dotted (parts : List String) :
    (".".intercalate parts).toList
      = ['.'].intercalate (parts.map String.toList) :=
  String.toList_intercalate

/-- A module path is identifiers with dots between them, and at least one. As
identifiers have no dots, splitting at the dots finds them. -/
theorem isModulePath_iff (s : String) :
    isModulePath s.toList = true
      ↔ ∃ parts : List String, parts ≠ [] ∧ (∀ p ∈ parts, Identifier p)
        ∧ s = ".".intercalate parts := by
  unfold isModulePath
  rw [List.all_eq_true]
  constructor
  · intro hall
    refine ⟨(s.toList.splitOn '.').map String.ofList, ?_, ?_, ?_⟩
    · exact mt List.map_eq_nil_iff.mp (List.splitOn_ne_nil '.' _)
    · intro p hp
      obtain ⟨part, hpart, rfl⟩ := List.mem_map.mp hp
      rw [← isIdentifier_iff, String.toList_ofList]
      exact hall part hpart
    · apply String.toList_inj.mp
      rw [toList_dotted, List.map_map]
      have hsame : String.toList ∘ String.ofList = id :=
        funext fun _ => String.toList_ofList
      rw [hsame, List.map_id, List.intercalate_splitOn]
  · rintro ⟨parts, hne, hparts, rfl⟩ part hpart
    have hdot : ∀ cs ∈ parts.map String.toList, '.' ∉ cs := by
      intro cs hcs
      obtain ⟨p, hp, rfl⟩ := List.mem_map.mp hcs
      exact (hparts p hp).not_mem rfl (by decide)
    rw [toList_dotted, List.splitOn_intercalate '.' hdot
      (mt List.map_eq_nil_iff.mp hne)] at hpart
    obtain ⟨p, hp, rfl⟩ := List.mem_map.mp hpart
    exact (isIdentifier_iff p).mpr (hparts p hp)

/-- What stands in lists with marks between them is a mark or in one of the
lists. -/
theorem mem_intercalate {mark c : Char} {lists : List (List Char)}
    (h : c ∈ [mark].intercalate lists) : c = mark ∨ ∃ cs ∈ lists, c ∈ cs := by
  induction lists with
  | nil => cases h
  | cons cs lists ih =>
      cases lists with
      | nil =>
          rw [List.intercalate_singleton] at h
          exact Or.inr ⟨cs, List.mem_cons_self .., h⟩
      | cons ds rest =>
          rw [List.intercalate_cons_cons, List.append_assoc] at h
          rcases List.mem_append.mp h with h | h
          · exact Or.inr ⟨cs, List.mem_cons_self .., h⟩
          · rcases List.mem_cons.mp h with h | h
            · exact Or.inl h
            · rcases ih h with h | ⟨es, hes, hc⟩
              · exact Or.inl h
              · exact Or.inr ⟨es, List.mem_cons_of_mem _ hes, hc⟩

/-- A module path holds no colon. -/
theorem WellFormed.colon_not_mem {n : EntrypointName} (h : n.WellFormed) :
    ':' ∉ n.module.toList := by
  obtain ⟨parts, -, hparts, hmodule⟩ := h.module
  rw [hmodule, toList_dotted]
  intro hmem
  rcases mem_intercalate hmem with hdot | ⟨cs, hcs, hc⟩
  · revert hdot
    decide
  · obtain ⟨p, hp, rfl⟩ := List.mem_map.mp hcs
    exact (hparts p hp).not_mem rfl (by decide) hc

-- ================================================================== whole names

/-- The text of a name, as characters. -/
theorem toList_text (n : EntrypointName) :
    n.text.toList = n.module.toList ++ ':' :: n.function.toList := by
  unfold text
  simp

/-- Characters with a colon are divided in front of the first one. -/
theorem span_colon {cs ds : List Char} (h : ':' ∉ cs) :
    (cs ++ ':' :: ds).span (· != ':') = (cs, ':' :: ds) := by
  have hall : ∀ c ∈ cs, (c != ':') = true := by
    intro c hc
    refine bne_iff_ne.mpr ?_
    rintro rfl
    exact h hc
  rw [List.span_eq_takeWhile_dropWhile, List.takeWhile_append_of_pos hall,
    List.dropWhile_append_of_pos hall, List.takeWhile_cons_of_neg (by decide),
    List.dropWhile_cons_of_neg (by decide), List.append_nil]

/-- What is divided in front of a character has a colon there. -/
theorem eq_of_span {cs front back : List Char} {c : Char}
    (h : cs.span (· != ':') = (front, c :: back)) :
    cs = front ++ ':' :: back := by
  rw [List.span_eq_takeWhile_dropWhile] at h
  obtain ⟨hfront, hback⟩ := Prod.mk.inj h
  have hcolon : c = ':' := by
    have hhead := List.head_dropWhile_not (· != ':') (l := cs) (by rw [hback]; simp)
    simpa [hback] using hhead
  subst hcolon
  rw [← hfront, ← hback, List.takeWhile_append_dropWhile]

/-- A text is read as the name that it spells, if it spells one. -/
theorem ofText?_eq_some_iff (text : String) (n : EntrypointName) :
    ofText? text = some n ↔ Spells text n := by
  unfold ofText?
  constructor
  · intro h
    split at h
    · next front c back hspan =>
        split at h
        · next hgood =>
            obtain ⟨hmodule, hfunction⟩ := Bool.and_eq_true_iff.mp hgood
            cases h
            refine ⟨⟨?_, ?_⟩, ?_⟩
            · rw [← isModulePath_iff, String.toList_ofList]
              exact hmodule
            · rw [← isIdentifier_iff, String.toList_ofList]
              exact hfunction
            · apply String.toList_inj.mp
              rw [toList_text, String.toList_ofList, String.toList_ofList]
              exact eq_of_span hspan
        · cases h
    · cases h
  · rintro ⟨hn, htext⟩
    rw [htext, toList_text, span_colon hn.colon_not_mem]
    have hmodule := (isModulePath_iff n.module).mpr hn.module
    have hfunction := (isIdentifier_iff n.function).mpr hn.function
    simp [hmodule, hfunction]

/-- A text has no name exactly if it spells none. -/
theorem ofText?_eq_none_iff (text : String) :
    ofText? text = none ↔ ∀ n, ¬ Spells text n := by
  rw [Option.eq_none_iff_forall_ne_some]
  exact forall_congr' fun n => not_congr (ofText?_eq_some_iff text n)

/-- A text spells one name at most. -/
theorem Spells.unique {text : String} {m n : EntrypointName}
    (hm : Spells text m) (hn : Spells text n) : m = n := by
  rw [← ofText?_eq_some_iff] at hm hn
  exact Option.some.inj (hm.symm.trans hn)

/-- Texts that spell a name are the same without the blanks around them. -/
theorem Spells.iff_trim {text other : String} {n : EntrypointName}
    (h : Spells text n) :
    Spells other n ↔ Text.trim other = Text.trim text := by
  rw [h.2]
  exact and_iff_right h.1

end EntrypointName

end HookRules
