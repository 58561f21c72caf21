/-
Two views of one snapshot.

A condition learns of the repository in two ways. The flat view of a context has a
list for each set of files; the functions of the catalog answer from the snapshot
itself. Both come down to the same files (`GitFileSet.filesIn`), of which a
missing snapshot has none.

The functions look for an entry that fits. What a function with a pattern looks
for is a predicate of entries (`Registry.meant`), which every entry meets if there
is no pattern, and which an entry meets by its own name: the words of an entry are
compared before anything is made of them, so it does not matter whether they are
a glob as well. So an answer with a pattern implies the one without, and an entry of
a list is found by all of the functions (`GitFileSet.memberCalls`).
-/
import HookRules.Engine
import HookRules.Proofs.Json.Fields
import Mathlib.Data.List.Basic

namespace HookRules

-- =================================================================== file sets

namespace GitFileSet

/-- The field of the flat view that lists a set. -/
def listField : GitFileSet → String
  | .staged => "git_staged_files"
  | .modified => "git_modified_files"
  | .untracked => "git_untracked_files"
  | .conflicts => "git_conflict_files"

/-- The function that tells whether a set has an entry. -/
def hasFunction : GitFileSet → Builtin
  | .staged => .gitHasStaged
  | .modified => .gitHasModified
  | .untracked => .gitHasUntracked
  | .conflicts => .gitHasConflicts

/-- All calls that tell whether a path is in a set. -/
def memberCalls (path : String) : GitFileSet → List (String × List Json)
  | .staged =>
    [("git_has_staged", [.str path]), ("is_staged", [.str path]),
     ("git_file_in", [.str path, .str "staged"])]
  | .modified =>
    [("git_has_modified", [.str path]), ("is_modified", [.str path]),
     ("git_file_in", [.str path, .str "modified"])]
  | .untracked =>
    [("git_has_untracked", [.str path]),
     ("git_file_in", [.str path, .str "untracked"])]
  | .conflicts =>
    [("git_has_conflicts", [.str path]),
     ("git_file_in", [.str path, .str "conflict"]),
     ("git_file_in", [.str path, .str "conflicts"])]

/-- The files of a set in a snapshot, none if there is no snapshot. -/
def filesIn (set : GitFileSet) (git : Option GitState) : List String :=
  (git.map fun g => g.files set).getD []

end GitFileSet

-- ================================================================ the flat view

namespace Context

variable (c : Context) (timestamp : String)

/-- The flat view holds under a name what its list of entries gives to it. -/
theorem get?_view (name : String) :
    Fields.get? (c.view timestamp) name
      = Fields.last? (c.entries timestamp) name :=
  Fields.get?_ofList _ name

/-- Each list of the view has the files of its set in their order, and is there
without a snapshot too. -/
theorem view_listField (set : GitFileSet) :
    Fields.get? (c.view timestamp) set.listField
      = some (.arr ((set.filesIn c.git).map .str)) := by
  rw [get?_view]
  cases set with
  | staged | modified | untracked | conflicts =>
      simp [entries, GitFileSet.listField, fileList, GitFileSet.filesIn]

/-- The view has its own field for conflicts, beside the list of them. -/
theorem view_hasConflicts :
    Fields.get? (c.view timestamp) "git_has_conflicts"
      = some (.bool (c.git.any (·.hasConflicts))) := by
  rw [get?_view]
  simp [entries]

/-- The branch of the view is null if the snapshot has none or there is no
snapshot. -/
theorem view_branch :
    Fields.get? (c.view timestamp) "git_branch"
      = some (.ofOption (c.git.bind (·.branch))) := by
  rw [get?_view]
  simp [entries]

end Context

-- ================================================================ the functions

namespace Registry

-- ---------------------------------------------------------------- what is looked for

/-- Whether a text means an entry as a pattern: by the same words, or as a glob. -/
def spells (p entry : String) : Bool :=
  match Glob.ofText p with
  | .ok glob => entry == p || glob.accepts entry
  | .error _ => entry == p

/-- Whether a pattern means an entry. Without a pattern every entry is meant. -/
def meant (pattern : Option Json) (entry : String) : Bool :=
  match pattern with
  | none | some .null => true
  | some (.str p) => spells p entry
  | some _ => false

/-- An entry is meant by its own words, whether they are a glob or not. -/
theorem spells_self (f : String) : spells f f = true := by
  unfold spells
  cases Glob.ofText f with
  | ok glob => exact Bool.or_eq_true_iff.mpr (Or.inl (beq_self_eq_true f))
  | error _ => exact beq_self_eq_true f

/-- A path that is written as an entry is that entry, wherever the working
directory is. -/
theorem entryMatches_self (cwd f : String) : entryMatches cwd f f = true := by
  unfold entryMatches
  rw [beq_self_eq_true, Bool.true_or, Bool.true_or]

variable (r : Registry) (set : GitFileSet)

/-- What a function with a pattern answers, as one search over the files. The
cases of a missing snapshot, a missing pattern and a pattern that is no text
are all in `meant` and `filesIn`. -/
theorem hasEntry_eq (pattern : Option Json) :
    r.hasEntry set pattern = (set.filesIn r.git).any (meant pattern) := by
  unfold hasEntry GitFileSet.filesIn
  cases r.git with
  | none => rfl
  | some g =>
      have hall : ∀ files : List String,
          files.any (fun _ => true) = !files.isEmpty := by
        intro files
        cases files <;> rfl
      have hnone : ∀ files : List String, files.any (fun _ => false) = false :=
        fun files => List.any_eq_false.mpr fun _ _ => Bool.false_ne_true
      cases pattern with
      | none => exact (hall _).symm
      | some v =>
          cases v with
          | null => exact (hall _).symm
          | str p =>
              show (match Glob.ofText p with
                | .ok glob => (g.files set).any fun f => f == p || glob.accepts f
                | .error _ => (g.files set).any fun f => f == p)
                = (g.files set).any (spells p)
              unfold spells
              cases Glob.ofText p <;> rfl
          | bool | num | arr | obj => exact (hnone _).symm

/-- The same for a function with a path. -/
theorem fileIn_eq (path : String) :
    r.fileIn path set = (set.filesIn r.git).any (entryMatches r.cwd path) := by
  unfold fileIn GitFileSet.filesIn
  cases r.git <;> rfl

variable {r set}

/-- An entry of a set is found by its path. -/
theorem fileIn_self {f : String} (hf : f ∈ set.filesIn r.git) :
    r.fileIn f set = true := by
  rw [fileIn_eq]
  exact List.any_eq_true.mpr ⟨f, hf, entryMatches_self r.cwd f⟩

/-- An entry of a set is found by itself as a pattern, even where as a glob it
would not accept itself. -/
theorem hasEntry_self {f : String} (hf : f ∈ set.filesIn r.git) :
    r.hasEntry set (some (.str f)) = true := by
  rw [hasEntry_eq]
  exact List.any_eq_true.mpr ⟨f, hf, spells_self f⟩

/-- Without a pattern the question is whether the set has any entry. -/
theorem hasEntry_none (r : Registry) (set : GitFileSet) :
    r.hasEntry set none = decide (set.filesIn r.git ≠ []) := by
  rw [hasEntry_eq]
  cases set.filesIn r.git <;> rfl

/-- What is found with a pattern is found without one. -/
theorem hasEntry_of_pattern {pattern : Option Json}
    (h : r.hasEntry set pattern = true) : r.hasEntry set none = true := by
  rw [hasEntry_eq] at h ⊢
  obtain ⟨f, hf, -⟩ := List.any_eq_true.mp h
  exact List.any_eq_true.mpr ⟨f, hf, rfl⟩

-- ----------------------------------------------------------------------- calls

/-- The conflicts of a snapshot are the entries of their set. -/
theorem any_hasConflicts (git : Option GitState) :
    git.any (·.hasConflicts)
      = decide (GitFileSet.conflicts.filesIn git ≠ []) := by
  cases git with
  | none => rfl
  | some g =>
      show (!g.conflicts.isEmpty) = decide (g.conflicts ≠ [])
      cases g.conflicts <;> rfl

/-- The four functions answer alike, each for its set. They take one argument
or none, and look at the first. -/
theorem call_hasFunction (r : Registry) (set : GitFileSet) (args : List Json)
    (h : args.length ≤ 1) :
    r.call set.hasFunction.name args
      = .ok (.bool (r.hasEntry set args.head?)) := by
  rw [call_name]
  cases set with
  | staged | modified | untracked | conflicts =>
      exact if_pos ⟨Nat.zero_le _, h⟩

/-- Without a pattern the answer is whether the set has a file. -/
theorem call_hasFunction_nil (r : Registry) (set : GitFileSet) :
    r.call set.hasFunction.name []
      = .ok (.bool (decide (set.filesIn r.git ≠ []))) := by
  rw [call_hasFunction r set [] (Nat.zero_le 1), List.head?_nil, hasEntry_none]

/-- A call that finds something with a pattern finds something without one. -/
theorem call_hasFunction_of_pattern {pattern : Json}
    (h : r.call set.hasFunction.name [pattern] = .ok (.bool true)) :
    r.call set.hasFunction.name [] = .ok (.bool true) := by
  rw [call_hasFunction r set [pattern] (Nat.le_refl 1)] at h
  have hentry : r.hasEntry set (some pattern) = true :=
    Json.bool.inj (Except.ok.inj h)
  rw [call_hasFunction r set [] (Nat.zero_le 1), List.head?_nil,
    hasEntry_of_pattern hentry]

/-- A file of a set is found by every call that tells whether it is in it. -/
theorem call_memberCalls {f : String} (hf : f ∈ set.filesIn r.git)
    {q : String × List Json} (hq : q ∈ set.memberCalls f) :
    r.call q.1 q.2 = .ok (.bool true) := by
  have hhas : (.ok (.bool (r.hasEntry set (some (.str f)))) : Except CallError Json)
      = .ok (.bool true) := by rw [hasEntry_self hf]
  have hin : (.ok (.bool (r.fileIn f set)) : Except CallError Json)
      = .ok (.bool true) := by rw [fileIn_self hf]
  cases set with
  | staged | modified =>
      rcases List.mem_cons.mp hq with rfl | hq
      · exact hhas
      · rcases List.mem_pair.mp hq with rfl | rfl
        · exact hin
        · exact hin
  | untracked =>
      rcases List.mem_pair.mp hq with rfl | rfl
      · exact hhas
      · exact hin
  | conflicts =>
      rcases List.mem_cons.mp hq with rfl | hq
      · exact hhas
      · rcases List.mem_pair.mp hq with rfl | rfl
        · exact hin
        · exact hin

end Registry

open Registry

/-- The fields of the flat view that tell of the repository and the functions that
a condition can call about it agree, for any context, with a snapshot or without.

A function that tells whether a set has an entry does so without a pattern as the
list of the set does. Every file of the list is found by each call that tells
whether it is in the set, by its own words as a pattern too, whatever characters
they hold; and a call that finds something with a pattern finds something without
one. Conflicts and the branch are told alike as well. -/
theorem snapshot_is_told_alike (e : Engine) (c : Context) (timestamp : String) :
    let view := c.view timestamp
    let call := (e.registry c).call
    (∀ set : GitFileSet,
      let files := set.filesIn c.git
      Fields.get? view set.listField = some (.arr (files.map .str))
        ∧ call set.hasFunction.name [] = .ok (.bool (decide (files ≠ [])))
        ∧ (∀ f ∈ files, ∀ q ∈ set.memberCalls f,
          call q.1 q.2 = .ok (.bool true))
        ∧ ∀ pattern, call set.hasFunction.name [pattern] = .ok (.bool true) →
          call set.hasFunction.name [] = .ok (.bool true))
      ∧ (∃ b, call "has_conflicts" [] = .ok (.bool b)
        ∧ call "git_has_conflicts" [] = .ok (.bool b)
        ∧ Fields.get? view "git_has_conflicts" = some (.bool b))
      ∧ ∃ branch, call "current_branch" [] = .ok branch
        ∧ Fields.get? view "git_branch" = some branch := by
  intro view call
  refine ⟨?_, ?_, ?_⟩
  · intro set
    refine ⟨c.view_listField timestamp set,
      call_hasFunction_nil (e.registry c) set, ?_, ?_⟩
    · intro f hf q hq
      exact call_memberCalls (r := e.registry c) hf hq
    · intro pattern hfound
      exact call_hasFunction_of_pattern hfound
  · refine ⟨c.git.any (·.hasConflicts), rfl, ?_, c.view_hasConflicts timestamp⟩
    rw [any_hasConflicts]
    exact call_hasFunction_nil (e.registry c) .conflicts
  · exact ⟨_, rfl, c.view_branch timestamp⟩

/-- A staged file whose name is no glob is found by its name, and a file with
conflicts by a pattern and without one. -/
theorem snapshot_of_odd_names :
    let e : Engine :=
      { host := ⟨.empty, none, "/"⟩
        runner := fun _ => .ok ⟨0, .exited 0, [], []⟩ }
    let c : Context :=
      { Context.ofEvent "/work" ⟨{ sessionId := "s" }, .stop false⟩ with
        git := some { staged := ["./[x", "a***"], conflicts := ["b[1].rs"] } }
    let call := (e.registry c).call
    call "git_has_staged" [.str "./[x"] = .ok (.bool true)
      ∧ call "is_staged" [.str "./[x"] = .ok (.bool true)
      ∧ call "git_file_in" [.str "b[1].rs", .str "conflicts"] = .ok (.bool true)
      ∧ call "git_has_conflicts" [.str "*.rs"] = .ok (.bool true)
      ∧ call "git_has_conflicts" [] = .ok (.bool true) := by
  intro e c call
  have hentry : (e.registry c).hasEntry .conflicts (some (.str "*.rs")) = true := by
    decide +kernel
  have hfound : call "git_has_conflicts" [.str "*.rs"] = .ok (.bool true) := by
    rw [← hentry]
    exact call_hasFunction (e.registry c) .conflicts [.str "*.rs"] (Nat.le_refl 1)
  have hsets := (snapshot_is_told_alike e c "").1
  have hstaged := (hsets .staged).2.2.1 "./[x" (List.mem_cons_self ..)
  obtain ⟨-, -, hin, hwithout⟩ := hsets .conflicts
  refine ⟨hstaged _ (List.mem_cons_self ..),
    hstaged _ (List.mem_cons_of_mem _ (List.mem_cons_self ..)), ?_, hfound,
    hwithout _ hfound⟩
  exact hin "b[1].rs" (List.mem_cons_self ..) _
    (List.mem_cons_of_mem _ (List.mem_cons_of_mem _ (List.mem_cons_self ..)))

end HookRules
