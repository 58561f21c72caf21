/-
Where normalised paths lead.

# Displacements

From wherever it is walked, a relative path goes some steps up and then down some
names. `Displacement` is these two, and each component changes them in one way
(`Displacement.step`): a step up takes the last name away, or goes further up if
there is none. Walking a path from a directory ends at the landing of its
displacement (`reaches_landing`).

# What normalising keeps

Normalising holds the names of the displacement, and of the steps up the last one
or none: a step up is taken away by the next one like a name. So it keeps track
of whether their number is odd (`normalForm_step`), and the path that is left
leads to the same place exactly if there was at most one (`landing_normalForm`).
Steps up at the root are no displacement, so an absolute path always leads to the
same place.

The normal form is normalised by itself, and it is read back from its text, since
its components are plain ones of the path.
-/
import HookRules.Proofs.FileTree.Lexical

namespace HookRules

namespace Path

-- ============================================================= displacements

/-- How a relative path moves: so many steps up, and then down some names, which
are held last name first. -/
structure Displacement where
  ups : Nat := 0
  names : List String := []

namespace Displacement

/-- A displacement and one component more. -/
def step (d : Displacement) : Component → Displacement
  | .root => {}
  | .here => d
  | .up => match d.names with
    | [] => { d with ups := d.ups + 1 }
    | _ :: rest => { d with names := rest }
  | .name s => { d with names := s :: d.names }

/-- The components that normalising leaves of a displacement, last one first. -/
def normalForm (d : Displacement) : List Component :=
  d.names.map .name ++ List.replicate (d.ups % 2) .up

/-- Where a displacement leads from the directory with these names. -/
def landing (start : List String) (d : Displacement) : List String :=
  start.take (start.length - d.ups) ++ d.names.reverse

end Displacement

/-- The displacement of components. -/
def displacement (cs : List Component) : Displacement :=
  cs.foldl Displacement.step {}

/-- The number of steps up that have no name before them to take away. -/
def climb (cs : List Component) : Nat := (displacement cs).ups

namespace Displacement

/-- A step up is taken away like a name, and anything else is kept. -/
theorem normalForm_step (d : Displacement) {c : Component} (h : c ≠ .root) :
    normalizeStep d.normalForm c = (d.step c).normalForm := by
  obtain ⟨ups, names⟩ := d
  have hparity : ups % 2 = 0 ∧ (ups + 1) % 2 = 1
      ∨ ups % 2 = 1 ∧ (ups + 1) % 2 = 0 := by omega
  cases c with
  | root => exact absurd rfl h
  | here => cases names <;> rcases hparity with ⟨hp, -⟩ | ⟨hp, -⟩ <;>
      simp [normalForm, step, normalizeStep, hp]
  | up =>
      cases names with
      | nil =>
          rcases hparity with ⟨hp, hnext⟩ | ⟨hp, hnext⟩ <;>
            simp [normalForm, step, normalizeStep, hp, hnext]
      | cons s rest => simp [normalForm, step, normalizeStep]
  | name s => cases names <;> rcases hparity with ⟨hp, -⟩ | ⟨hp, -⟩ <;>
      simp [normalForm, step, normalizeStep, hp]

theorem normalForm_foldl (d : Displacement) {cs : List Component}
    (h : .root ∉ cs) :
    cs.foldl normalizeStep d.normalForm = (cs.foldl step d).normalForm := by
  induction cs generalizing d with
  | nil => rfl
  | cons c cs ih =>
      obtain ⟨hc, hcs⟩ := List.ne_and_not_mem_of_not_mem_cons h
      rw [List.foldl_cons, List.foldl_cons, normalForm_step d hc.symm, ih _ hcs]

/-- There are no more steps up than components for them. -/
theorem ups_foldl_le (d : Displacement) (cs : List Component) :
    (cs.foldl step d).ups ≤ d.ups + cs.count .up := by
  induction cs generalizing d with
  | nil => exact Nat.le_refl _
  | cons c cs ih =>
      have hstep : (d.step c).ups ≤ d.ups + if c = .up then 1 else 0 := by
        cases c with
        | up => cases hnames : d.names <;> simp [step, hnames]
        | root => exact Nat.zero_le _
        | here | name s => exact Nat.le_refl _
      have hrest := ih (d.step c)
      rw [List.foldl_cons, List.count_cons]
      simp only [beq_iff_eq]
      omega

end Displacement

/-- Normalising a relative path leaves the normal form of its displacement. -/
theorem normalize_eq {cs : List Component} (h : .root ∉ cs) :
    normalize cs = (displacement cs).normalForm.reverse :=
  congrArg List.reverse (Displacement.normalForm_foldl {} h)

/-- A path climbs at most as often as it has a step up. -/
theorem climb_le (cs : List Component) : climb cs ≤ cs.count .up := by
  have hle := Displacement.ups_foldl_le {} cs
  rwa [Nat.zero_add] at hle

namespace Displacement

/-- Names only are gone down one after the other; the last of them is the first
of the reversed list. -/
theorem foldl_names (d : Displacement) (names : List String) :
    (names.map Component.name).foldl step d
      = { d with names := names.reverse ++ d.names } := by
  induction names generalizing d with
  | nil => rfl
  | cons s names ih =>
      rw [List.map_cons, List.foldl_cons, ih, List.reverse_cons,
        List.append_assoc]
      rfl

theorem reverse_normalForm (d : Displacement) :
    d.normalForm.reverse
      = List.replicate (d.ups % 2) .up ++ d.names.reverse.map .name := by
  rw [normalForm, List.reverse_append, List.reverse_replicate,
    ← List.map_reverse]

/-- A displacement starts from wherever one is, and its normal form does as
well. -/
theorem root_not_mem_normalForm (d : Displacement) :
    .root ∉ d.normalForm.reverse := by
  rw [reverse_normalForm]
  simp

/-- The displacement of a normal form has lost the steps up in pairs. -/
theorem displacement_normalForm (d : Displacement) :
    displacement d.normalForm.reverse = ⟨d.ups % 2, d.names⟩ := by
  have hups : (List.replicate (d.ups % 2) Component.up).foldl step {}
      = ⟨d.ups % 2, []⟩ := by
    rcases Nat.mod_two_eq_zero_or_one d.ups with hp | hp <;> rw [hp] <;> rfl
  rw [reverse_normalForm, displacement, List.foldl_append, hups, foldl_names,
    List.reverse_reverse, List.append_nil]

-- ================================================================== landings

variable (start : List String) (d : Displacement)

/-- Without a step one stays. -/
theorem landing_zero : landing start {} = start := by
  simp [landing]

/-- A step up leaves the directory; at the root it stays there. -/
theorem landing_up :
    (d.step .up).landing start = (d.landing start).dropLast := by
  obtain ⟨ups, names⟩ := d
  cases names with
  | nil =>
      simp only [step, landing, List.reverse_nil, List.append_nil,
        List.dropLast_eq_take, List.length_take, List.take_take]
      congr 1
      omega
  | cons s rest =>
      simp only [step, landing, List.reverse_cons, ← List.append_assoc]
      exact List.dropLast_concat.symm

/-- A name goes down into a directory of that name. -/
theorem landing_name (s : String) :
    (d.step (.name s)).landing start = d.landing start ++ [s] := by
  simp [step, landing]

/-- From deep enough, the normal form of a displacement leads to the same place
exactly if there is at most one step up. -/
theorem landing_normalForm (hdeep : d.ups ≤ start.length) :
    landing start ⟨d.ups % 2, d.names⟩ = d.landing start ↔ d.ups ≤ 1 := by
  constructor
  · intro heq
    have hlen := congrArg List.length heq
    simp only [landing, List.length_append, List.length_take] at hlen
    omega
  · intro hle
    rw [Nat.mod_eq_of_lt (Nat.lt_succ_of_le hle)]

end Displacement

-- ====================================================== components and texts

/-- Normalising makes no components up. -/
theorem mem_foldl_normalizeStep {c : Component} {done cs : List Component}
    (h : c ∈ cs.foldl normalizeStep done) : c ∈ done ∨ c ∈ cs := by
  induction cs generalizing done with
  | nil => exact Or.inl h
  | cons d cs ih =>
      rw [List.foldl_cons] at h
      rcases ih h with hstep | hcs
      · unfold normalizeStep at hstep
        split at hstep
        case h_1 | h_3 => exact Or.inl hstep
        case h_2 | h_5 =>
          rw [List.mem_singleton.mp hstep]
          exact Or.inr List.mem_cons_self
        case h_4 => exact Or.inl (List.mem_cons_of_mem _ hstep)
        case h_6 =>
          rcases List.mem_cons.mp hstep with rfl | hdone
          · exact Or.inr List.mem_cons_self
          · exact Or.inl hdone
      · exact Or.inr (List.mem_cons_of_mem d hcs)

/-- Normalising takes components away and makes no new ones. -/
theorem mem_of_mem_normalize {c : Component} {cs : List Component}
    (h : c ∈ normalize cs) : c ∈ cs := by
  rcases mem_foldl_normalizeStep (List.mem_reverse.mp h) with hnil | hcs
  · cases hnil
  · exact hcs

/-- The components of a relative path are those of its segments, after a dot that
it may start with. -/
theorem components_of_relative {path : String} (h : isAbsolute path = false) :
    components path
      = (if (segments path).head? = some "." then [.here] else [])
        ++ componentsOf (segments path) := by
  unfold components
  dsimp only
  rw [h]
  rfl

/-- A component of a path is plain, or it is the root or a dot. -/
theorem plain_or_of_mem_components {path : String} {c : Component}
    (h : c ∈ components path) :
    c.Plain ∨ c = .here ∨ isAbsolute path = true ∧ c = .root := by
  cases habsolute : isAbsolute path with
  | true =>
      rw [components_of_isAbsolute habsolute] at h
      rcases List.mem_cons.mp h with rfl | h
      · exact Or.inr (Or.inr ⟨rfl, rfl⟩)
      · exact Or.inl (plain_of_mem h)
  | false =>
      rw [components_of_relative habsolute] at h
      rcases List.mem_append.mp h with hdot | h
      · split at hdot
        · exact Or.inr (Or.inl (List.mem_singleton.mp hdot))
        · cases hdot
      · exact Or.inl (plain_of_mem h)

theorem root_not_mem_components {path : String} (h : isAbsolute path = false) :
    .root ∉ components path := by
  intro hroot
  rcases plain_or_of_mem_components hroot with hplain | hdot | ⟨habsolute, -⟩
  · cases hplain
  · cases hdot
  · rw [h] at habsolute
    cases habsolute

theorem head?_segments_of_isAbsolute {path : String}
    (h : isAbsolute path = true) : (segments path).head? = some "" := by
  obtain ⟨rest, hrest⟩ := List.head?_eq_some_iff.mp (beq_iff_eq.mp h)
  unfold segments
  rw [hrest, List.splitOn_cons_eq_if_modifyHead, if_pos (by decide)]
  rfl

/-- The segments of the text of a relative path are those of its components. -/
theorem segments_textOf_relative {cs : List Component}
    (h : ∀ c ∈ cs, c.Plain) (hne : cs ≠ []) :
    segments (textOf cs) = cs.map Component.text := by
  have htext : textOf cs = "/".intercalate (cs.map Component.text) := by
    unfold textOf
    split
    · cases h .root List.mem_cons_self
    · rfl
  have hchars : (textOf cs).toList
      = ['/'].intercalate ((cs.map Component.text).map String.toList) := by
    rw [htext, String.toList_intercalate]
    rfl
  unfold segments
  rw [hchars, splitOn_texts h hne]
  simp

/-- The text of a plain component names one. -/
theorem Component.Plain.text_ne {c : Component} (h : c.Plain) :
    c.text ≠ "" ∧ c.text ≠ "." := by
  cases h with
  | up => decide
  | name _ hempty hdot _ => exact ⟨hempty, hdot⟩

/-- Plain components are those of their text, without a root as with one. -/
theorem components_textOf_relative {cs : List Component}
    (h : ∀ c ∈ cs, c.Plain) : components (textOf cs) = cs := by
  cases cs with
  | nil => decide +kernel
  | cons c cs =>
      have hsegments := segments_textOf_relative h (List.cons_ne_nil c cs)
      have hhead : (segments (textOf (c :: cs))).head? = some c.text := by
        rw [hsegments]
        rfl
      obtain ⟨hempty, hdot⟩ := (h c List.mem_cons_self).text_ne
      have hrelative : isAbsolute (textOf (c :: cs)) = false := by
        rw [Bool.eq_false_iff]
        intro habsolute
        have hroot := head?_segments_of_isAbsolute habsolute
        rw [hhead] at hroot
        exact hempty (Option.some.inj hroot)
      rw [components_of_relative hrelative, hhead,
        if_neg (fun heq => hdot (Option.some.inj heq)), hsegments,
        componentsOf_text h, List.nil_append]

/-- The normal form of a path is read back from its text. -/
theorem components_textOf_normalize (path : String) :
    components (textOf (normalize (components path)))
      = normalize (components path) := by
  cases habsolute : isAbsolute path with
  | true =>
      obtain ⟨names, hplace⟩ : ∃ names : List String,
          normalize (components path) = .root :: names.map .name := by
        rw [components_of_isAbsolute habsolute]
        exact FileTree.normalize_root _
      have hplain : ∀ c ∈ names.map Component.name, c.Plain := by
        intro c hc
        have hmem : c ∈ components path := mem_of_mem_normalize (by
          rw [hplace]
          exact List.mem_cons_of_mem _ hc)
        obtain ⟨s, -, rfl⟩ := List.mem_map.mp hc
        rcases plain_or_of_mem_components hmem with hplain | hdot | ⟨-, hroot⟩
        · exact hplain
        · cases hdot
        · cases hroot
      rw [hplace]
      exact components_textOf hplain
  | false =>
      have hroot := root_not_mem_components habsolute
      refine components_textOf_relative fun c hc => ?_
      rcases plain_or_of_mem_components (mem_of_mem_normalize hc) with
        hplain | rfl | ⟨-, rfl⟩
      · exact hplain
      · rw [normalize_eq hroot, Displacement.reverse_normalForm] at hc
        simp at hc
      · exact absurd (mem_of_mem_normalize hc) hroot

/-- What is normalised stays as it is. -/
theorem normalize_normalize (path : String) :
    normalize (normalize (components path)) = normalize (components path) := by
  cases habsolute : isAbsolute path with
  | true =>
      rw [components_of_isAbsolute habsolute]
      obtain ⟨names, hplace⟩ :=
        FileTree.normalize_root (componentsOf (segments path))
      rw [hplace, FileTree.normalize_place]
  | false =>
      rw [normalize_eq (root_not_mem_components habsolute),
        normalize_eq (Displacement.root_not_mem_normalForm _),
        Displacement.displacement_normalForm]
      simp [Displacement.normalForm]

end Path

namespace FileTree

open HookRules.Path (Component Displacement)

variable {tree : FileTree}

-- =================================================================== walking

/-- Where no links are, components lead from a landing to the next one. -/
theorem reaches_landing (h : LinkFree tree) (start : List String)
    (d : Displacement) {cs : List Component} (hroot : .root ∉ cs) :
    Reaches tree (d.landing start) cs
      ((cs.foldl Displacement.step d).landing start) := by
  induction cs generalizing d with
  | nil => exact .done _
  | cons c cs ih =>
      obtain ⟨hc, hcs⟩ := List.ne_and_not_mem_of_not_mem_cons hroot
      have hrest := ih (d.step c) hcs
      cases c with
      | root => exact absurd rfl hc
      | here => exact .here hrest
      | up =>
          rw [Displacement.landing_up] at hrest
          exact .up hrest
      | name s =>
          rw [Displacement.landing_name] at hrest
          exact .name (h _) hrest

/-- A relative path leads from a directory to the landing of its displacement. -/
theorem reaches_displacement (h : LinkFree tree) (start : List String)
    {cs : List Component} (hroot : .root ∉ cs) :
    Reaches tree start cs ((Path.displacement cs).landing start) := by
  have hreach := reaches_landing h start {} hroot
  rwa [Displacement.landing_zero] at hreach

/-- An absolute path leads to the place of its normal form. -/
theorem reaches_normal_absolute (h : LinkFree tree) (start : List String)
    {path : String} (habsolute : Path.isAbsolute path = true) :
    ∃ place, Reaches tree start (Path.normalize (Path.components path)) place
      ∧ Reaches tree start (Path.components path) place := by
  rw [Path.components_of_isAbsolute habsolute, Path.normalize_root_cons]
  obtain ⟨place, hreach, hfold⟩ :=
    reaches_fold h [] (Path.componentsOf (Path.segments path))
  change List.foldl Path.normalizeStep [.root] _ = _ at hfold
  rw [hfold, List.reverse_reverse]
  have hstraight : Straight tree place := fun _ _ _ => h _
  exact ⟨place, .root hstraight.reaches, .root hreach⟩

/-- From deep enough, a relative path and its normal form lead to the same place
exactly if the path climbs at most once. -/
theorem reaches_normal_relative (h : LinkFree tree) {start : List String}
    {cs : List Component} (hroot : .root ∉ cs)
    (hdeep : cs.count .up ≤ start.length) :
    (∃ place, Reaches tree start (Path.normalize cs) place
        ∧ Reaches tree start cs place)
      ↔ Path.climb cs ≤ 1 := by
  have hpath := reaches_displacement h start hroot
  have hnormal := reaches_displacement h start
    (Displacement.root_not_mem_normalForm (Path.displacement cs))
  rw [Displacement.displacement_normalForm, ← Path.normalize_eq hroot]
    at hnormal
  rw [Path.climb, ← Displacement.landing_normalForm start _
    ((Path.climb_le cs).trans hdeep)]
  constructor
  · rintro ⟨place, hfirst, hsecond⟩
    rw [← hfirst.unique hnormal, ← hsecond.unique hpath]
  · intro hsame
    rw [hsame] at hnormal
    exact ⟨_, hnormal, hpath⟩

-- ============================================================== normal forms

/-- A normalised path leads where the path leads, from every directory that is at
least as deep as the path has steps up and in every tree without links, exactly
if the path is absolute or climbs at most one step above where it starts. It is
the same when it is normalised again, and when it is read from its text. -/
theorem normalized_path_leads_alike (h : LinkFree tree) (path : String) :
    let cs := Path.components path
    let normal := Path.normalize cs
    (∀ start : List String, cs.count .up ≤ start.length →
      ((∃ place, Reaches tree start normal place ∧ Reaches tree start cs place)
        ↔ Path.isAbsolute path = true ∨ Path.climb cs ≤ 1))
    ∧ Path.normalize normal = normal
    ∧ Path.components (Path.textOf normal) = normal := by
  intro cs normal
  refine ⟨fun start hdeep => ?_, Path.normalize_normalize path,
    Path.components_textOf_normalize path⟩
  cases habsolute : Path.isAbsolute path with
  | true =>
      exact iff_of_true (reaches_normal_absolute h start habsolute) (Or.inl rfl)
  | false =>
      have hroot := Path.root_not_mem_components habsolute
      exact (reaches_normal_relative h hroot hdeep).trans
        (or_iff_right Bool.false_ne_true).symm

-- Two directories, one inside the other.
private def nested : FileTree :=
  .dir true [("home", .dir true [("work", .dir true [])])]

private theorem nested_linkFree : LinkFree nested := by
  refine LinkFree.dir ?_ true
  simp only [List.mem_singleton, forall_eq]
  refine LinkFree.dir ?_ true
  simp only [List.mem_singleton, forall_eq]
  exact LinkFree.dir (by simp) true

/-- One step above the start is kept, with the name behind it. -/
theorem normalized_path_of_sibling :
    LinkFree nested
      ∧ Path.normalize (Path.components "src/./../../lib//new")
        = [.up, .name "lib", .name "new"]
      ∧ (Path.components "src/./../../lib//new").count .up
        ≤ ["home", "work"].length
      ∧ ∃ place,
        Reaches nested ["home", "work"]
            (Path.normalize (Path.components "src/./../../lib//new")) place
          ∧ Reaches nested ["home", "work"]
            (Path.components "src/./../../lib//new") place := by
  have hdeep : (Path.components "src/./../../lib//new").count .up
      ≤ ["home", "work"].length := by decide +kernel
  have hclimb : Path.climb (Path.components "src/./../../lib//new") ≤ 1 := by
    decide +kernel
  obtain ⟨halike, -, -⟩ :=
    normalized_path_leads_alike nested_linkFree "src/./../../lib//new"
  exact ⟨nested_linkFree, by decide +kernel, hdeep,
    (halike ["home", "work"] hdeep).mpr (Or.inr hclimb)⟩

/-- Two steps up in a row are lost: the second takes the first away as if it were
a name, and what is left leads to the start. -/
theorem second_step_up_takes_the_first_away :
    ¬ ∀ (tree : FileTree) (path : String) (start place place' : List String),
      LinkFree tree → (Path.components path).count .up ≤ start.length →
      Reaches tree start (Path.normalize (Path.components path)) place →
      Reaches tree start (Path.components path) place' → place = place' := by
  intro hall
  have hpath : Path.components "../.." = [.up, .up] := by decide +kernel
  have hsame := hall nested "../.." ["home", "work"] ["home", "work"] []
    nested_linkFree
  rw [hpath] at hsame
  have heq := hsame (by decide) (.done _) (.up (.up (.done _)))
  cases heq

end FileTree

end HookRules
