/-
Where paths lead, and what lies under a base.

# Locations

A path is compared as its lenient place: the real place of the longest part of
it that exists, with what is left below it carried out on the names alone. What
lies at a place can still be elsewhere, since there may be links on it.
`Reaches` says where a path leads when every link on it is followed, those that
lead nowhere included; names that do not exist are kept. It leads to one
location at most (`Reaches.unique`).

# Containment

A place is straight if no link is met on it. Following a path to its end leaves
no link behind (`locate?_straight`), so the place of a path that exists is
straight and is its own location; a place below a straight one is the location
of something below it. So a path that is settled, because it exists or because
no link is left on its place, cannot lead out of a base that it lies under
(`under_base_leads_below`). Any other path can: after a missing directory and a
step up (`step_up_after_missing_leads_outside`), or at a link that leads nowhere.
-/
import HookRules.FileTree
import Mathlib

namespace HookRules

namespace FileTree

open HookRules.Path (Component)

-- =============================================================== locations

/-- From the directory with these names the components of a path lead to a
location, every link being replaced by its target. -/
inductive Reaches (tree : FileTree) :
    List String → List Component → List String → Prop where
  | done (names : List String) : Reaches tree names [] names
  | root {names : List String} {rest : List Component} {place : List String}
      (h : Reaches tree [] rest place) :
      Reaches tree names (.root :: rest) place
  | here {names : List String} {rest : List Component} {place : List String}
      (h : Reaches tree names rest place) :
      Reaches tree names (.here :: rest) place
  | up {names : List String} {rest : List Component} {place : List String}
      (h : Reaches tree names.dropLast rest place) :
      Reaches tree names (.up :: rest) place
  | link {names : List String} {s target : String} {rest : List Component}
      {place : List String} (hat : tree.at? (names ++ [s]) = some (.link target))
      (h : Reaches tree names (Path.components target ++ rest) place) :
      Reaches tree names (.name s :: rest) place
  | name {names : List String} {s : String} {rest : List Component}
      {place : List String}
      (hat : ∀ target, tree.at? (names ++ [s]) ≠ some (.link target))
      (h : Reaches tree (names ++ [s]) rest place) :
      Reaches tree names (.name s :: rest) place

variable {tree : FileTree}

/-- A path leads to one location at most. -/
theorem Reaches.unique {names : List String} {cs : List Component}
    {place place' : List String} (h : Reaches tree names cs place)
    (h' : Reaches tree names cs place') : place = place' := by
  induction h with
  | done names =>
      cases h'
      rfl
  | root _ ih =>
      cases h' with
      | root h' => exact ih h'
  | here _ ih =>
      cases h' with
      | here h' => exact ih h'
  | up _ ih =>
      cases h' with
      | up h' => exact ih h'
  | link hat _ ih =>
      cases h' with
      | link hat' h' =>
          rw [hat] at hat'
          cases hat'
          exact ih h'
      | name hat' _ => exact absurd hat (hat' _)
  | name hat _ ih =>
      cases h' with
      | link hat' _ => exact absurd hat' (hat _)
      | name _ h' => exact ih h'

-- ========================================================= straight places

/-- No link is met on the way to a place. -/
def Straight (tree : FileTree) (names : List String) : Prop :=
  ∀ front s, front ++ [s] <+: names →
    ∀ target, tree.at? (front ++ [s]) ≠ some (.link target)

theorem Straight.nil : Straight tree [] := by
  intro front s hfront
  have hlen := hfront.length_le
  simp at hlen

/-- What a straight place is below of is straight. -/
theorem Straight.of_prefix {names front : List String} (h : Straight tree names)
    (hfront : front <+: names) : Straight tree front :=
  fun before s hbefore => h before s (hbefore.trans hfront)

/-- A name that is no link leads straight on. -/
theorem Straight.concat {names : List String} {s : String}
    (h : Straight tree names)
    (hat : ∀ target, tree.at? (names ++ [s]) ≠ some (.link target)) :
    Straight tree (names ++ [s]) := by
  intro front t hfront
  rcases List.prefix_concat_iff.mp hfront with heq | hbefore
  · rw [heq]
    exact hat
  · exact h front t hbefore

/-- A straight place is its own location. -/
theorem Straight.reaches {done names : List String}
    (h : Straight tree (done ++ names)) :
    Reaches tree done (names.map .name) (done ++ names) := by
  induction names generalizing done with
  | nil =>
      rw [List.append_nil]
      exact .done done
  | cons s names ih =>
      have hsplit : done ++ s :: names = (done ++ [s]) ++ names := by simp
      rw [hsplit] at h ⊢
      exact .name (h done s (List.prefix_append ..)) (ih h)

theorem Straight.place_reaches {names : List String} (h : Straight tree names) :
    Reaches tree [] (placeComponents names) names :=
  .root (Straight.reaches h)

/-- Following segments from a straight place leads to straight places, if going
on at a link does. -/
theorem followWith_straight
    {onLink : List String → List String → Option (List String)}
    (honLink : ∀ done segments names, Straight tree done.reverse →
      onLink done segments = some names → Straight tree names)
    {done segments names : List String} (hdone : Straight tree done.reverse)
    (h : followWith tree onLink done segments = some names) :
    Straight tree names := by
  induction segments generalizing done with
  | nil =>
      cases h
      exact hdone
  | cons segment rest ih =>
      rw [followWith] at h
      split at h
      · split at h
        · exact ih hdone h
        · split at h
          · refine ih (hdone.of_prefix ?_) h
            rw [List.reverse_drop]
            exact List.take_prefix _ _
          · split at h
            · cases h
            · next target _ =>
                split at h
                · cases h
                · refine honLink _ _ _ ?_ h
                  split
                  · exact Straight.nil
                  · exact hdone
            · next t hnot hat =>
                refine ih ?_ h
                rw [List.reverse_cons] at hat ⊢
                refine hdone.concat ?_
                intro target htarget
                rw [hat] at htarget
                exact hnot target (Option.some.inj htarget)
      · cases h

theorem follow_straight {links : Nat} {done segments names : List String}
    (hdone : Straight tree done.reverse)
    (h : follow tree links done segments = some names) :
    Straight tree names := by
  induction links generalizing done segments names with
  | zero =>
      refine followWith_straight (fun _ _ _ _ hnone => ?_) hdone h
      cases hnone
  | succ links ih => exact followWith_straight (fun _ _ _ => ih) hdone h

/-- The place of a path that exists is straight. -/
theorem locate?_straight {path : String} {names : List String}
    (h : tree.locate? path = some names) : Straight tree names := by
  unfold locate? at h
  split at h
  · exact follow_straight Straight.nil h
  · cases h

-- ================================================================== places

/-- Components below the root stay below it. -/
theorem foldl_normalizeStep (cs : List Component) (names : List String) :
    ∃ names' : List String,
      cs.foldl Path.normalizeStep (names.map Component.name ++ [.root])
        = names'.map Component.name ++ [.root] := by
  induction cs generalizing names with
  | nil => exact ⟨names, rfl⟩
  | cons c cs ih =>
      rw [List.foldl_cons]
      cases c with
      | root => cases names <;> exact ih []
      | here => cases names <;> exact ih _
      | up =>
          cases names with
          | nil => exact ih []
          | cons s names => exact ih names
      | name s => cases names <;> exact ih (s :: _)

/-- What is normalised below the root is a place. -/
theorem normalize_root (cs : List Component) :
    ∃ names, Path.normalize (.root :: cs) = placeComponents names := by
  obtain ⟨names, hnames⟩ := foldl_normalizeStep cs []
  refine ⟨names.reverse, ?_⟩
  show (cs.foldl Path.normalizeStep [.root]).reverse = _
  rw [show [Component.root] = ([] : List String).map Component.name ++ [.root]
    from rfl, hnames, List.reverse_append, ← List.map_reverse]
  rfl

/-- A place is normalised. -/
theorem normalize_place (names : List String) :
    Path.normalize (placeComponents names) = placeComponents names := by
  suffices hfold : ∀ done : List Component, done ≠ [] →
      (names.map Component.name).foldl Path.normalizeStep done
        = (names.map Component.name).reverse ++ done by
    show ((names.map Component.name).foldl Path.normalizeStep [.root]).reverse = _
    rw [hfold [.root] (by simp), List.reverse_append, List.reverse_reverse]
    rfl
  induction names with
  | nil => exact fun done _ => rfl
  | cons s names ih =>
      intro done hdone
      have hstep : Path.normalizeStep done (.name s) = .name s :: done := by
        cases done with
        | nil => exact absurd rfl hdone
        | cons c done => cases c <;> rfl
      rw [List.map_cons, List.foldl_cons, hstep, ih _ (by simp)]
      simp

/-- What starts with an absolute path is absolute. -/
theorem isAbsolute_append {path : String} (h : Path.isAbsolute path = true)
    (rest : String) : Path.isAbsolute (path ++ rest) = true := by
  obtain ⟨more, hmore⟩ := List.head?_eq_some_iff.mp (beq_iff_eq.mp h)
  unfold Path.isAbsolute
  rw [String.toList_append, hmore]
  rfl

/-- A path seen from an absolute directory is absolute. -/
theorem isAbsolute_resolve {cwd : String} (h : Path.isAbsolute cwd = true)
    (home : Option String) (path : String) :
    Path.isAbsolute (Path.resolve home cwd path) = true := by
  have hjoin : ∀ expanded : String, Path.isAbsolute
      (if Path.isAbsolute expanded then expanded else Path.join cwd expanded)
        = true := by
    intro expanded
    split
    · assumption
    · next hrelative =>
        unfold Path.join
        rw [if_neg hrelative]
        split
        · exact isAbsolute_append h _
        · rw [String.append_assoc]
          exact isAbsolute_append h _
  exact hjoin _

theorem ne_empty_of_isAbsolute {path : String}
    (h : Path.isAbsolute path = true) : path ≠ "" := by
  rintro rfl
  exact absurd h (by decide)

/-- The lenient place of an absolute path is a place. -/
theorem lenientPlace_place (tree : FileTree) (base : String) {path : String}
    (h : Path.isAbsolute path = true) :
    ∃ names, tree.lenientPlace base path = placeComponents names := by
  unfold lenientPlace
  dsimp only
  cases hfound : (ancestors path).findSome? _ with
  | none =>
      rw [Option.getD_none]
      unfold Path.components
      dsimp only
      rw [if_pos h]
      exact normalize_root _
  | some place =>
      obtain ⟨⟨ancestor, rest⟩, -, hplace⟩ :=
        List.exists_of_findSome?_eq_some hfound
      dsimp only at hplace
      split at hplace
      · cases hplace
      · obtain ⟨names, -, rfl⟩ := Option.map_eq_some_iff.mp hplace
        rw [Option.getD_some]
        exact normalize_root _

/-- The lenient place of a path that exists is where it leads. -/
theorem lenientPlace_of_locate? (base : String) {path : String}
    {names : List String} (h : Path.isAbsolute path = true)
    (hlocate : tree.locate? path = some names) :
    tree.lenientPlace base path = placeComponents names := by
  unfold lenientPlace ancestors
  dsimp only
  rw [List.findSome?_cons, if_neg (ne_empty_of_isAbsolute h)]
  unfold Path.join
  rw [if_pos h, hlocate]
  dsimp only [Option.map_some]
  rw [List.append_nil, normalize_place]
  rfl

-- ============================================================= containment

theorem dropLeading?_isSome {cs ds : List Component} :
    (Path.dropLeading? cs ds).isSome = true ↔ ds <+: cs := by
  induction cs generalizing ds with
  | nil => cases ds <;> simp [Path.dropLeading?]
  | cons c cs ih =>
      cases ds with
      | nil => simp [Path.dropLeading?]
      | cons d ds =>
          rw [Path.dropLeading?, List.cons_prefix_cons]
          split
          · next heq => rw [ih, heq]; simp
          · next hne => simp [Ne.symm hne]

/-- One place starts with another exactly if its names do. -/
theorem startsWith_place {names above : List String} :
    Path.startsWith (placeComponents names) (placeComponents above) = true
      ↔ above <+: names := by
  unfold Path.startsWith placeComponents
  rw [dropLeading?_isSome, List.cons_prefix_cons]
  simp only [true_and]
  exact List.prefix_map_iff_of_injective fun _ _ => Component.name.inj

/-- A straight place leads to its own names and nowhere else. -/
theorem Straight.reaches_iff {names location : List String}
    (h : Straight tree names) :
    Reaches tree [] (placeComponents names) location ↔ location = names := by
  constructor
  · intro hreach
    exact hreach.unique h.place_reaches
  · rintro rfl
    exact h.place_reaches

/-- A path as a user writes it leads to a location: the place that it is compared
as does. -/
def LeadsTo (tree : FileTree) (base : String) (home : Option String)
    (cwd path : String) (location : List String) : Prop :=
  Reaches tree [] (tree.lenientPlace base (Path.resolve home cwd path)) location

/-- A path exists, or no link is left on the place that it is compared as. -/
def Settled (tree : FileTree) (base : String) (home : Option String)
    (cwd path : String) : Prop :=
  (tree.locate? (Path.resolve home cwd path)).isSome = true
    ∨ ∃ names, Straight tree names
      ∧ tree.lenientPlace base (Path.resolve home cwd path)
        = placeComponents names

variable {base cwd path parent : String} {home : Option String}

/-- A path that is settled is compared as a straight place. -/
theorem Settled.place (hcwd : Path.isAbsolute cwd = true)
    (h : Settled tree base home cwd path) :
    ∃ names, Straight tree names
      ∧ tree.lenientPlace base (Path.resolve home cwd path)
        = placeComponents names := by
  rcases h with hexists | hplace
  · obtain ⟨names, hlocate⟩ := Option.isSome_iff_exists.mp hexists
    exact ⟨names, locate?_straight hlocate,
      lenientPlace_of_locate? base (isAbsolute_resolve hcwd home path) hlocate⟩
  · exact hplace

/-- A path that is settled and lies under a base leads to one location, which is
at or below the one that the base leads to. -/
theorem under_base_leads_below (hcwd : Path.isAbsolute cwd = true)
    (h : tree.isUnder base home cwd path parent = true)
    (hsettled : Settled tree base home cwd path) :
    ∃ above location,
      (∀ l, LeadsTo tree base home cwd path l ↔ l = location)
        ∧ (∀ l, LeadsTo tree base home cwd parent l ↔ l = above)
        ∧ above <+: location := by
  unfold isUnder at h
  rw [Bool.and_eq_true] at h
  obtain ⟨-, hstart⟩ := h
  obtain ⟨location, hstraight, hlocation⟩ := hsettled.place hcwd
  obtain ⟨above, habove⟩ :=
    lenientPlace_place tree base (isAbsolute_resolve hcwd home parent)
  rw [hlocation, habove, startsWith_place] at hstart
  refine ⟨above, location, fun l => ?_, fun l => ?_, hstart⟩
  · unfold LeadsTo
    rw [hlocation, hstraight.reaches_iff]
  · unfold LeadsTo
    rw [habove, (hstraight.of_prefix hstart).reaches_iff]

-- A directory with a link into itself and one out of it.
private def linked : FileTree :=
  .dir true [
    ("base", .dir true [
      ("sub", .dir true [("kept", .file "" 0)]),
      ("inner", .link "/base/sub"),
      ("link", .link "/outside")]),
    ("outside", .dir true [("secret", .file "" 0)])]

/-- An existing path through a link inside a base leads below the base. -/
theorem under_base_through_inner_link :
    Path.isAbsolute "/base" = true
      ∧ linked.isUnder "/" none "/base" "inner/kept" "/base" = true
      ∧ Settled linked "/" none "/base" "inner/kept"
      ∧ ∃ above location,
        (∀ l, LeadsTo linked "/" none "/base" "inner/kept" l ↔ l = location)
          ∧ (∀ l, LeadsTo linked "/" none "/base" "/base" l ↔ l = above)
          ∧ above <+: location := by
  have hcwd : Path.isAbsolute "/base" = true := by decide +kernel
  have hunder : linked.isUnder "/" none "/base" "inner/kept" "/base" = true := by
    decide +kernel
  have hsettled : Settled linked "/" none "/base" "inner/kept" :=
    Or.inl (by decide +kernel)
  exact ⟨hcwd, hunder, hsettled, under_base_leads_below hcwd hunder hsettled⟩

/-- A path that does not exist can lead outside the base that it counts as
below: the step up after a missing directory is carried out on the names, and
the link behind it stays. -/
theorem step_up_after_missing_leads_outside :
    ¬ ∀ (tree : FileTree) (base : String) (home : Option String)
        (cwd path parent : String) (above location : List String),
      Path.isAbsolute cwd = true → tree.isUnder base home cwd path parent = true →
      LeadsTo tree base home cwd path location →
      LeadsTo tree base home cwd parent above → above <+: location := by
  intro hall
  have hlink : linked.at? ["base", "link"] = some (.link "/outside") := by
    simp [linked, at?, child?, List.lookup]
  have htarget : Path.components "/outside" = [.root, .name "outside"] := by
    decide +kernel
  have hpath : LeadsTo linked "/" none "/base" "missing/../link/secret"
      ["outside", "secret"] := by
    have hplace : linked.lenientPlace "/"
          (Path.resolve none "/base" "missing/../link/secret")
        = placeComponents ["base", "link", "secret"] := by decide +kernel
    unfold LeadsTo
    rw [hplace]
    refine .root (.name (by simp [linked, at?, child?, List.lookup])
      (.link hlink ?_))
    rw [htarget]
    refine .root (.name (by simp [linked, at?, child?, List.lookup]) ?_)
    exact .name (by simp [linked, at?, child?, List.lookup]) (.done _)
  have hbase : LeadsTo linked "/" none "/base" "/base" ["base"] := by
    have hplace : linked.lenientPlace "/" (Path.resolve none "/base" "/base")
        = placeComponents ["base"] := by decide +kernel
    unfold LeadsTo
    rw [hplace]
    exact .root (.name (by simp [linked, at?, child?, List.lookup]) (.done _))
  have hprefix : ["base"] <+: ["outside", "secret"] :=
    hall linked "/" none "/base" "missing/../link/secret" "/base" _ _
      (by decide +kernel) (by decide +kernel) hpath hbase
  exact absurd hprefix (by decide)

end FileTree

end HookRules
