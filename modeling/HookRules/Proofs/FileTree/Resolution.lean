/-
Where the paths of users start.

A path as a user writes it is seen from the working directory, or from the home
directory if a tilde and a slash stand in front. Seeing a relative text from an
absolute directory puts its components behind those of the directory
(`components_join`): the slash between the two texts is written, or the directory
ends with one already.

An absolute text is never seen from anywhere. That holds of what a tilde and a
slash leave as well, so behind a tilde and two slashes the home directory is
dropped.
-/
import HookRules.Proofs.FileTree.Lexical

namespace HookRules

namespace Path

-- =================================================================== joining

theorem componentsOf_append (ss ts : List String) :
    componentsOf (ss ++ ts) = componentsOf ss ++ componentsOf ts := by
  unfold componentsOf
  rw [List.filter_append, List.map_append]

theorem segments_append_slash (s t : String) :
    segments (s ++ "/" ++ t) = segments s ++ segments t := by
  have hchars : (s ++ "/" ++ t).toList = s.toList ++ '/' :: t.toList := by
    simp [String.toList_append]
  unfold segments
  rw [hchars, List.splitOn_append_cons_self, List.map_append]

/-- An absolute path that ends with a slash has the components of what stands in
front of it. -/
theorem components_of_slash {front rest : String}
    (h : isAbsolute (front ++ "/" ++ rest) = true) :
    components (front ++ "/" ++ rest)
      = .root :: (componentsOf (segments front) ++ componentsOf (segments rest)) := by
  rw [components_of_isAbsolute h, segments_append_slash, componentsOf_append]

/-- A relative path that is seen from an absolute directory is below it. -/
theorem components_join {directory path : String}
    (h : isAbsolute directory = true) (hpath : isAbsolute path = false) :
    isAbsolute (join directory path) = true
      ∧ components (join directory path)
        = components directory ++ componentsOf (segments path) := by
  have hends : ∀ rest, isAbsolute (directory ++ rest) = true :=
    FileTree.isAbsolute_append h
  unfold join
  rw [hpath, if_neg Bool.false_ne_true]
  split
  · next hslash =>
      -- the directory ends with the slash that stands between them
      obtain ⟨front, rfl⟩ : ∃ front, directory = front ++ "/" := by
        rcases Bool.or_eq_true_iff.mp hslash with hempty | hlast
        · exact absurd (of_decide_eq_true hempty)
            (FileTree.ne_empty_of_isAbsolute h)
        · obtain ⟨front, hfront⟩ :=
            List.getLast?_eq_some_iff.mp (of_decide_eq_true hlast)
          refine ⟨String.ofList front, ?_⟩
          rw [← String.toList_inj, hfront, String.toList_append,
            String.toList_ofList]
          rfl
      have hnone : componentsOf (segments "") = [] := by decide +kernel
      have hfront : components (front ++ "/" ++ "")
          = .root :: (componentsOf (segments front) ++ componentsOf (segments "")) :=
        components_of_slash (by rwa [String.append_empty])
      rw [String.append_empty, hnone, List.append_nil] at hfront
      exact ⟨hends path, by
        rw [components_of_slash (hends path), hfront, List.cons_append]⟩
  · have habsolute : isAbsolute (directory ++ "/" ++ path) = true := by
      rw [String.append_assoc]
      exact hends _
    refine ⟨habsolute, ?_⟩
    rw [components_of_slash habsolute, components_of_isAbsolute h,
      List.cons_append]

-- ================================================================= resolving

variable {home cwd path : String}

theorem resolve_tilde (h : isAbsolute home = true) (cwd : String) :
    resolve (some home) cwd "~" = home :=
  if_pos h

/-- Behind a tilde and a slash a text is seen from the home directory. -/
theorem resolve_home (h : isAbsolute home = true) (cwd rest : String) :
    resolve (some home) cwd ("~/" ++ rest) = join home rest := by
  have habsolute : isAbsolute (join home rest) = true := by
    cases hrest : isAbsolute rest with
    | true =>
        unfold join
        rw [if_pos hrest]
        exact hrest
    | false => exact (components_join h hrest).1
  have hexpanded : resolve (some home) cwd ("~/" ++ rest)
      = if isAbsolute (join home (String.ofList rest.toList))
        then join home (String.ofList rest.toList)
        else join cwd (join home (String.ofList rest.toList)) := by
    unfold resolve
    rw [String.toList_append]
    rfl
  rw [hexpanded, String.ofList_toList, if_pos habsolute]

/-- Any other relative text is seen from the working directory. -/
theorem resolve_other (home : Option String) (cwd : String)
    (hpath : isAbsolute path = false) (htilde : path ≠ "~")
    (hhome : ∀ rest, path ≠ "~/" ++ rest) :
    resolve home cwd path = join cwd path := by
  unfold resolve
  split
  · next heq => exact absurd (String.toList_inj.mp heq) htilde
  · next rest _ heq =>
      refine absurd ?_ (hhome (String.ofList rest))
      rw [← String.toList_inj, heq, String.toList_append]
      simp
  · dsimp only
    rw [hpath, if_neg Bool.false_ne_true]

/-- A relative text resolves to an absolute path. A tilde is the home directory,
and what stands behind a tilde and a slash is below it; but if that starts with a
slash itself, it is the path by itself. Any other text is below the working
directory, a tilde with something else behind it too. -/
theorem resolve_below_home_or_cwd (hhome : isAbsolute home = true)
    (hcwd : isAbsolute cwd = true) (hpath : isAbsolute path = false) :
    let resolved := resolve (some home) cwd path
    isAbsolute resolved = true
      ∧ (path = "~" → components resolved = components home)
      ∧ (∀ rest, path = "~/" ++ rest → isAbsolute rest = false →
        components resolved = components home ++ componentsOf (segments rest))
      ∧ (∀ rest, path = "~/" ++ rest → isAbsolute rest = true →
        resolved = rest)
      ∧ (path ≠ "~" → (∀ rest, path ≠ "~/" ++ rest) →
        components resolved = components cwd ++ componentsOf (segments path)) := by
  intro resolved
  refine ⟨FileTree.isAbsolute_resolve hcwd (some home) path, ?_, ?_, ?_, ?_⟩
  · rintro rfl
    exact congrArg components (resolve_tilde hhome cwd)
  · rintro rest rfl hrest
    rw [← (components_join hhome hrest).2, ← resolve_home hhome cwd rest]
  · rintro rest rfl hrest
    exact (resolve_home hhome cwd rest).trans (if_pos hrest)
  · intro htilde hother
    rw [← (components_join hcwd hpath).2,
      ← resolve_other (some home) cwd hpath htilde hother]

/-- From a directory that is written with a slash at its end, and from home. -/
theorem resolve_of_two_texts :
    isAbsolute "/home/user/" = true ∧ isAbsolute "/work" = true
      ∧ isAbsolute "~/./notes//new" = false ∧ isAbsolute "~user/.." = false
      ∧ components (resolve (some "/home/user/") "/work" "~/./notes//new")
        = components "/home/user/" ++ [.name "notes", .name "new"]
      ∧ components (resolve (some "/home/user/") "/work" "~user/..")
        = components "/work" ++ [.name "~user", .up] := by
  have hhome : isAbsolute "/home/user/" = true := by decide +kernel
  have hcwd : isAbsolute "/work" = true := by decide +kernel
  have hnotes : isAbsolute "~/./notes//new" = false := by decide +kernel
  have huser : isAbsolute "~user/.." = false := by decide +kernel
  obtain ⟨-, -, hbelow, -, -⟩ := resolve_below_home_or_cwd hhome hcwd hnotes
  obtain ⟨-, -, -, -, hother⟩ := resolve_below_home_or_cwd hhome hcwd huser
  have hslash : ∀ rest, "~user/.." ≠ "~/" ++ rest := by
    intro rest heq
    have hchars := congrArg String.toList heq
    rw [String.toList_append] at hchars
    cases hchars
  refine ⟨hhome, hcwd, hnotes, huser, ?_, ?_⟩
  · exact (hbelow "./notes//new" (by decide) (by decide +kernel)).trans
      (congrArg _ (by decide +kernel))
  · exact (hother (by decide) hslash).trans (congrArg _ (by decide +kernel))

/-- A text behind a tilde and a slash need not resolve below the home directory:
with another slash in front it is taken as an absolute path. -/
theorem second_slash_leaves_home :
    ¬ ∀ home cwd path : String, isAbsolute home = true →
      isAbsolute cwd = true → isAbsolute path = false →
      (path = "~" ∨ ∃ rest, path = "~/" ++ rest) →
      components home <+: components (resolve (some home) cwd path) := by
  intro hall
  have hprefix := hall "/home/user" "/work" "~//etc" (by decide +kernel)
    (by decide +kernel) (by decide +kernel) (Or.inr ⟨"/etc", by decide⟩)
  exact absurd hprefix (by decide +kernel)

end Path

end HookRules
