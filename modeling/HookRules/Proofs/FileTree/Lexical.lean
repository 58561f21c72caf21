/-
Containment in a tree without links.

# The lexical form of a path

The lexical form of a path is what its components leave when dots are dropped
and steps up are carried out on the names before them. A path that is seen from
an absolute directory has a place for its form, the one that its components lead
to (`lexicalForm_place`).

# Existing parts do not matter

A path is compared as the place of its longest existing part, with the rest
carried out on the names. Where no links are, that part leads to its own lexical
form (`locate?_eq`), since a step up goes back to the directory that the name
before it was looked up in. Normalising goes on from a normalised part as from
the part itself (`normalize_append`), so the two pieces together are the lexical
form of the whole path, wherever the existing part ends
(`lenientPlace_eq_lexical`). An existing part is looked up by its text, which is
why the components of a text that was written from components have to be those
(`components_textOf`).
-/
import HookRules.Proofs.FileTree.Containment

namespace HookRules

namespace Path

-- ====================================================== text of components

/-- The components of segments, those that name nothing left out. -/
def componentsOf (segments : List String) : List Component :=
  (segments.filter fun s => s ≠ "" ∧ s ≠ ".").map Component.ofSegment

theorem components_of_isAbsolute {path : String} (h : isAbsolute path = true) :
    components path = .root :: componentsOf (segments path) := by
  unfold components
  dsimp only
  rw [if_pos h]
  rfl

/-- Below the root a component is a step up or a name that stands between two
slashes and is no dots. -/
inductive Component.Plain : Component → Prop where
  | up : Plain .up
  | name {s : String} (hslash : '/' ∉ s.toList) (hempty : s ≠ "")
      (hdot : s ≠ ".") (hdots : s ≠ "..") : Plain (.name s)

/-- What stands between separators holds none. -/
theorem not_mem_of_mem_splitOn {a : Char} {cs piece : List Char}
    (h : piece ∈ cs.splitOn a) : a ∉ piece := by
  induction cs generalizing piece with
  | nil =>
      rw [List.splitOn_nil, List.mem_singleton] at h
      simp [h]
  | cons c cs ih =>
      obtain ⟨first, rest, hsplit⟩ :=
        List.exists_cons_of_ne_nil (List.splitOn_ne_nil a cs)
      rw [List.splitOn_cons_eq_if_modifyHead] at h
      rw [hsplit] at h ih
      split at h
      · rcases List.mem_cons.mp h with rfl | h
        · simp
        · exact ih h
      · next hc =>
          have hne : a ≠ c := by
            rintro rfl
            simp at hc
          rcases List.mem_cons.mp h with rfl | h
          · have hfirst := ih List.mem_cons_self
            simp [hne, hfirst]
          · exact ih (List.mem_cons_of_mem first h)

/-- The components of a text are plain. -/
theorem plain_of_mem {path : String} {c : Component}
    (h : c ∈ componentsOf (segments path)) : c.Plain := by
  obtain ⟨s, hs, rfl⟩ := List.mem_map.mp h
  obtain ⟨hmem, hnamed⟩ := List.mem_filter.mp hs
  obtain ⟨hempty, hdot⟩ := of_decide_eq_true hnamed
  unfold Component.ofSegment
  by_cases hdots : s = ".."
  · rw [if_pos hdots]
    exact .up
  · rw [if_neg hdots]
    obtain ⟨piece, hpiece, rfl⟩ := List.mem_map.mp hmem
    refine .name ?_ hempty hdot hdots
    rw [String.toList_ofList]
    exact not_mem_of_mem_splitOn hpiece

theorem Component.Plain.slash_not_mem {c : Component} (h : c.Plain) :
    '/' ∉ c.text.toList := by
  cases h with
  | up => decide
  | name hslash _ _ _ => exact hslash

/-- Plain components are read back from their texts. -/
theorem componentsOf_text {cs : List Component} (h : ∀ c ∈ cs, c.Plain) :
    componentsOf (cs.map Component.text) = cs := by
  induction cs with
  | nil => rfl
  | cons c cs ih =>
      obtain ⟨hc, hcs⟩ := List.forall_mem_cons.mp h
      have hrest := ih hcs
      unfold componentsOf at hrest ⊢
      cases hc with
      | up => simpa [Component.text, Component.ofSegment] using hrest
      | name _ hempty hdot hdots =>
          simpa [Component.text, Component.ofSegment, hempty, hdot, hdots]
            using hrest

/-- Plain components with slashes between them are split into their texts. -/
theorem splitOn_texts {cs : List Component} (h : ∀ c ∈ cs, c.Plain)
    (hne : cs ≠ []) :
    (['/'].intercalate ((cs.map Component.text).map String.toList)).splitOn '/'
      = (cs.map Component.text).map String.toList := by
  refine List.splitOn_intercalate '/' ?_ (by simpa using hne)
  intro piece hpiece
  obtain ⟨s, hs, rfl⟩ := List.mem_map.mp hpiece
  obtain ⟨c, hc, rfl⟩ := List.mem_map.mp hs
  exact (h c hc).slash_not_mem

/-- The segments of the text of an absolute path: the empty one before the first
slash, and those of its components. -/
theorem segments_textOf {cs : List Component} (h : ∀ c ∈ cs, c.Plain)
    (hne : cs ≠ []) :
    segments (textOf (.root :: cs)) = "" :: cs.map Component.text := by
  have hchars : (textOf (.root :: cs)).toList
      = '/' :: ['/'].intercalate ((cs.map Component.text).map String.toList) := by
    simp only [textOf, String.toList_append, String.toList_intercalate]
    rfl
  unfold segments
  rw [hchars, List.splitOn_cons_eq_if_modifyHead, if_pos (by decide),
    splitOn_texts h hne]
  simp

theorem isAbsolute_textOf (cs : List Component) :
    isAbsolute (textOf (.root :: cs)) = true := by
  unfold isAbsolute textOf
  rw [String.toList_append]
  rfl

/-- The components of a text that was written from plain ones are those. -/
theorem components_textOf {cs : List Component} (h : ∀ c ∈ cs, c.Plain) :
    components (textOf (.root :: cs)) = .root :: cs := by
  rw [components_of_isAbsolute (isAbsolute_textOf cs)]
  by_cases hne : cs = []
  · subst hne
    decide +kernel
  · rw [segments_textOf h hne]
    exact congrArg (Component.root :: ·) (componentsOf_text h)

-- ========================================================== normalising

theorem normalize_root_cons (cs : List Component) :
    normalize (.root :: cs) = (cs.foldl normalizeStep [.root]).reverse := rfl

/-- Normalising goes on from components as from others with the same normal
form. -/
theorem normalize_append {cs ds : List Component}
    (h : normalize cs = normalize ds) (rest : List Component) :
    normalize (cs ++ rest) = normalize (ds ++ rest) := by
  unfold normalize at h ⊢
  rw [List.foldl_append, List.foldl_append, List.reverse_injective h]

end Path

namespace FileTree

open HookRules.Path (Component)

-- ========================================================== without links

/-- No name that can be reached in a tree is a link. Directories that may not be
searched can hold anything. -/
def LinkFree (tree : FileTree) : Prop :=
  ∀ names target, tree.at? names ≠ some (.link target)

variable {tree : FileTree}

theorem LinkFree.file (content : String) (mode : Nat) :
    LinkFree (.file content mode) := by
  intro names target hat
  cases names with
  | nil => cases hat
  | cons s names => cases hat

/-- A directory is free of links if all that it holds is. -/
theorem LinkFree.dir {entries : List (String × FileTree)}
    (h : ∀ entry ∈ entries, LinkFree entry.2) (searchable : Bool) :
    LinkFree (.dir searchable entries) := by
  intro names target hat
  cases names with
  | nil => cases hat
  | cons s names =>
      obtain ⟨t, hchild, ht⟩ := Option.bind_eq_some_iff.mp hat
      cases searchable with
      | false => cases hchild
      | true =>
          obtain ⟨_, _, hentries, -⟩ := List.lookup_eq_some_iff.mp hchild
          exact h (s, t) (by simp [hentries]) names target ht

/-- A step up takes the last name of a place away, if there is one. -/
theorem normalizeStep_up (names : List String) :
    Path.normalizeStep (placeComponents names).reverse .up
      = (placeComponents names.dropLast).reverse := by
  induction names using List.reverseRecOn with
  | nil => rfl
  | append_singleton names s _ =>
      simp [placeComponents, Path.normalizeStep]

/-- A name comes behind those of a place. -/
theorem normalizeStep_name (names : List String) (s : String) :
    Path.normalizeStep (placeComponents names).reverse (.name s)
      = (placeComponents (names ++ [s])).reverse := by
  induction names using List.reverseRecOn with
  | nil => rfl
  | append_singleton names t _ =>
      simp [placeComponents, Path.normalizeStep]

/-- Following segments without links carries their components out on the names
so far. -/
theorem followWith_linkFree (h : LinkFree tree)
    {onLink : List String → List String → Option (List String)}
    {done ss names : List String}
    (hfollow : followWith tree onLink done ss = some names) :
    (Path.componentsOf ss).foldl Path.normalizeStep
        (placeComponents done.reverse).reverse
      = (placeComponents names).reverse := by
  induction ss generalizing done with
  | nil =>
      cases hfollow
      rfl
  | cons s ss ih =>
      rw [followWith] at hfollow
      split at hfollow
      · by_cases hidle : s = "" ∨ s = "."
        · rw [if_pos hidle] at hfollow
          have hnone : Path.componentsOf (s :: ss) = Path.componentsOf ss := by
            unfold Path.componentsOf
            rw [List.filter_cons_of_neg]
            simp only [decide_eq_true_eq]
            tauto
          rw [hnone]
          exact ih hfollow
        · have hsome : Path.componentsOf (s :: ss)
              = Component.ofSegment s :: Path.componentsOf ss := by
            unfold Path.componentsOf
            rw [List.filter_cons_of_pos (by simpa [not_or] using hidle)]
            rfl
          rw [if_neg hidle] at hfollow
          rw [hsome, List.foldl_cons, Component.ofSegment]
          by_cases hdots : s = ".."
          · rw [if_pos hdots] at hfollow ⊢
            have hih := ih hfollow
            rwa [List.drop_one, ← List.dropLast_reverse,
              ← normalizeStep_up] at hih
          · rw [if_neg hdots] at hfollow ⊢
            rw [normalizeStep_name, ← List.reverse_cons]
            split at hfollow
            · cases hfollow
            · next target hat => exact absurd hat (h _ target)
            · exact ih hfollow
      · cases hfollow

/-- Where no links are, a path that exists leads to its lexical form. -/
theorem locate?_eq (h : LinkFree tree) {path : String} {names : List String}
    (hlocate : tree.locate? path = some names) :
    Path.normalize (Path.components path) = placeComponents names := by
  unfold locate? at hlocate
  split at hlocate
  · next habsolute =>
      have hfollow : followWith tree (follow tree 39) [] (Path.segments path)
          = some names := hlocate
      have hfold := followWith_linkFree h hfollow
      change List.foldl Path.normalizeStep [.root] _ = _ at hfold
      rw [Path.components_of_isAbsolute habsolute, Path.normalize_root_cons,
        hfold, List.reverse_reverse]
  · cases hlocate

/-- A path that contains an absolute one is absolute, and its components are
those above what is below it. -/
theorem components_of_mem_ancestors {path ancestor : String}
    {rest : List Component} (habsolute : Path.isAbsolute path = true)
    (hmem : (ancestor, rest) ∈ ancestors path) :
    Path.isAbsolute ancestor = true
      ∧ Path.components ancestor ++ rest = Path.components path := by
  unfold ancestors at hmem
  rcases List.mem_cons.mp hmem with heq | hmem
  · cases heq
    exact ⟨habsolute, List.append_nil _⟩
  · obtain ⟨k, hk, heq⟩ := List.mem_map.mp hmem
    rw [if_pos habsolute, List.mem_range,
      Path.components_of_isAbsolute habsolute, List.length_cons] at hk
    rw [Path.components_of_isAbsolute habsolute, List.length_cons] at heq
    rw [Path.components_of_isAbsolute habsolute]
    set cs := Path.componentsOf (Path.segments path) with hcs
    -- the root is always kept
    obtain ⟨kept, hkept⟩ : ∃ kept, cs.length + 1 - 1 - k = kept + 1 :=
      ⟨cs.length + 1 - 1 - k - 1, by omega⟩
    dsimp only at heq
    rw [hkept, List.take_succ_cons, List.drop_succ_cons] at heq
    cases heq
    have hplain : ∀ c ∈ cs.take kept, c.Plain := fun c hc =>
      Path.plain_of_mem (hcs ▸ List.mem_of_mem_take hc)
    refine ⟨Path.isAbsolute_textOf _, ?_⟩
    rw [Path.components_textOf hplain, List.cons_append, List.take_append_drop]

/-- Where no links are, a path is compared as its lexical form, whichever part
of it exists. -/
theorem lenientPlace_eq_lexical (h : LinkFree tree) (base : String)
    {path : String} (habsolute : Path.isAbsolute path = true) :
    tree.lenientPlace base path = Path.normalize (Path.components path) := by
  unfold lenientPlace
  dsimp only
  cases hfound : (ancestors path).findSome? _ with
  | none => rfl
  | some place =>
      obtain ⟨⟨ancestor, rest⟩, hmem, hplace⟩ :=
        List.exists_of_findSome?_eq_some hfound
      obtain ⟨hancestor, hcomponents⟩ :=
        components_of_mem_ancestors habsolute hmem
      dsimp only at hplace
      split at hplace
      · cases hplace
      · obtain ⟨names, hlocate, rfl⟩ := Option.map_eq_some_iff.mp hplace
        unfold Path.join at hlocate
        rw [if_pos hancestor] at hlocate
        have hform : Path.normalize (placeComponents names)
            = Path.normalize (Path.components ancestor) := by
          rw [normalize_place, locate?_eq h hlocate]
        rw [Option.getD_some, Path.normalize_append hform, hcomponents]

-- ============================================================ lexical forms

/-- The components of a path as a user writes it, carried out on the names. -/
def lexicalForm (home : Option String) (cwd path : String) : List Component :=
  Path.normalize (Path.components (Path.resolve home cwd path))

/-- Where no links are, components lead from a directory where the names say. -/
theorem reaches_fold (h : LinkFree tree) (names : List String)
    (cs : List Component) :
    ∃ place, Reaches tree names cs place
      ∧ cs.foldl Path.normalizeStep (placeComponents names).reverse
        = (placeComponents place).reverse := by
  induction cs generalizing names with
  | nil => exact ⟨names, .done names, rfl⟩
  | cons c cs ih =>
      -- the names so far are not empty, since the root is among them
      obtain ⟨first, done, hdone⟩ : ∃ first done,
          (placeComponents names).reverse = first :: done :=
        List.exists_cons_of_ne_nil (by simp [placeComponents])
      rw [List.foldl_cons]
      cases c with
      | root =>
          obtain ⟨place, hreach, hfold⟩ := ih []
          refine ⟨place, .root hreach, ?_⟩
          rw [← hfold, hdone]
          cases first <;> cases done <;> rfl
      | here =>
          obtain ⟨place, hreach, hfold⟩ := ih names
          refine ⟨place, .here hreach, ?_⟩
          rw [← hfold, hdone]
          rfl
      | up =>
          obtain ⟨place, hreach, hfold⟩ := ih names.dropLast
          refine ⟨place, .up hreach, ?_⟩
          rw [normalizeStep_up, hfold]
      | name s =>
          obtain ⟨place, hreach, hfold⟩ := ih (names ++ [s])
          refine ⟨place, .name (h _) hreach, ?_⟩
          rw [normalizeStep_name, hfold]

variable {cwd : String}

/-- The lexical form of a path is the place that its components lead to where no
links are. -/
theorem lexicalForm_place (h : LinkFree tree)
    (hcwd : Path.isAbsolute cwd = true) (home : Option String) (path : String) :
    ∃ names, lexicalForm home cwd path = placeComponents names
      ∧ ∀ place, Reaches tree [] (Path.components (Path.resolve home cwd path))
          place ↔ place = names := by
  have habsolute := isAbsolute_resolve hcwd home path
  unfold lexicalForm
  rw [Path.components_of_isAbsolute habsolute, Path.normalize_root_cons]
  obtain ⟨names, hreach, hfold⟩ := reaches_fold h []
    (Path.componentsOf (Path.segments (Path.resolve home cwd path)))
  change List.foldl Path.normalizeStep [.root] _ = _ at hfold
  refine ⟨names, ?_, fun place => ⟨fun hplace => ?_, fun heq => ?_⟩⟩
  · rw [hfold, List.reverse_reverse]
  · exact hplace.unique (.root hreach)
  · rw [heq]
    exact .root hreach

/-- Where no links are, containment is that of lexical forms. -/
theorem isUnder_iff_lexical (h : LinkFree tree) (base : String)
    (hcwd : Path.isAbsolute cwd = true) (home : Option String)
    (path parent : String) :
    tree.isUnder base home cwd path parent = true
      ↔ path ≠ "" ∧ parent ≠ ""
        ∧ lexicalForm home cwd parent <+: lexicalForm home cwd path := by
  unfold isUnder Path.startsWith
  rw [lenientPlace_eq_lexical h base (isAbsolute_resolve hcwd home path),
    lenientPlace_eq_lexical h base (isAbsolute_resolve hcwd home parent),
    Bool.and_eq_true, Bool.and_eq_true, dropLeading?_isSome,
    decide_eq_true_eq, decide_eq_true_eq, and_assoc]
  rfl

/-- In a tree without links a path lies under a base exactly if neither text is
empty and the components of the lexical form of the base are the first ones of
that of the path. The form is where the components lead, a place that no
existing part has a say in, so every other tree without links gives the same
answer. Every path but the empty one lies under itself, and what lies under
something below a base lies under the base. -/
theorem containment_is_lexical (htree : LinkFree tree) (base : String)
    (home : Option String) (hcwd : Path.isAbsolute cwd = true) :
    (∀ path parent, tree.isUnder base home cwd path parent = true
      ↔ path ≠ "" ∧ parent ≠ ""
        ∧ lexicalForm home cwd parent <+: lexicalForm home cwd path)
    ∧ (∀ path, ∃ names, lexicalForm home cwd path = placeComponents names
      ∧ ∀ place, Reaches tree [] (Path.components (Path.resolve home cwd path))
          place ↔ place = names)
    ∧ (∀ other otherBase, LinkFree other → ∀ path parent,
      other.isUnder otherBase home cwd path parent
        = tree.isUnder base home cwd path parent)
    ∧ (∀ path, path ≠ "" → tree.isUnder base home cwd path path = true)
    ∧ (∀ path middle parent, tree.isUnder base home cwd path middle = true →
      tree.isUnder base home cwd middle parent = true →
      tree.isUnder base home cwd path parent = true) := by
  have hunder := isUnder_iff_lexical htree base hcwd home
  refine ⟨hunder, lexicalForm_place htree hcwd home, ?_, ?_, ?_⟩
  · intro other otherBase hother path parent
    rw [Bool.eq_iff_iff, hunder, isUnder_iff_lexical hother otherBase hcwd home]
  · intro path hpath
    exact (hunder path path).mpr ⟨hpath, hpath, List.prefix_rfl⟩
  · intro path middle parent hfirst hsecond
    obtain ⟨hpath, -, hbelow⟩ := (hunder path middle).mp hfirst
    obtain ⟨-, hparent, habove⟩ := (hunder middle parent).mp hsecond
    exact (hunder path parent).mpr ⟨hpath, hparent, habove.trans hbelow⟩

-- A project with a file, a directory and one that may not be searched.
private def plainProject : FileTree :=
  .dir true [
    ("work", .dir true [
      ("notes", .file "" 0),
      ("src", .dir true []),
      ("locked", .dir false [("link", .link "/")])])]

/-- Steps up behind a file, behind a missing name and out of a directory that may
not be searched are carried out on the names. -/
theorem containment_behind_steps_up :
    LinkFree plainProject
      ∧ Path.isAbsolute "/work" = true
      ∧ lexicalForm none "/work" "notes/../gone/.././src//new"
        = placeComponents ["work", "src", "new"]
      ∧ plainProject.isUnder "/" none "/work" "notes/../gone/.././src//new"
          "locked/link/../../src" = true
      ∧ plainProject.isUnder "/" none "/work" "src/../srcs" "src" = false := by
  have htree : LinkFree plainProject := by
    refine LinkFree.dir ?_ true
    simp only [List.mem_singleton, forall_eq]
    refine LinkFree.dir ?_ true
    simp only [List.mem_cons, List.not_mem_nil, or_false, forall_eq_or_imp,
      forall_eq]
    refine ⟨.file "" 0, .dir (by simp) true, ?_⟩
    intro names target hat
    cases names <;> cases hat
  have hcwd : Path.isAbsolute "/work" = true := by decide +kernel
  obtain ⟨hunder, -, -, -, -⟩ := containment_is_lexical htree "/" none hcwd
  refine ⟨htree, hcwd, by decide +kernel, (hunder _ _).mpr ?_, ?_⟩
  · exact ⟨by decide, by decide, by decide +kernel⟩
  · rw [Bool.eq_false_iff]
    intro h
    obtain ⟨-, -, hprefix⟩ := (hunder _ _).mp h
    exact absurd hprefix (by decide +kernel)

end FileTree

end HookRules
