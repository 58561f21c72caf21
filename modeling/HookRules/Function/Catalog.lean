/-
The functions that conditions can call.

The catalog is a fixed table. A function has a name, a signature for messages and
the number of arguments that it takes. What a name answers is said elsewhere, and
not of the entries here but of the names.
-/
namespace HookRules

/-- The functions of the catalog. -/
inductive Builtin where
  | isPathUnder | fileExists | isExecutable | isDir | matchesGlob
  | env
  | isGitRepo | isStaged | isModified | hasConflicts | currentBranch
  | gitHasStaged | gitHasModified | gitHasUntracked | gitHasConflicts | gitFileIn
  | sessionGet | projectGet
  | regexMatch | lower
deriving DecidableEq

namespace Builtin

/-- The catalog in its order. -/
def all : List Builtin :=
  [.isPathUnder, .fileExists, .isExecutable, .isDir, .matchesGlob, .env, .isGitRepo, .isStaged,
   .isModified, .hasConflicts, .currentBranch, .gitHasStaged, .gitHasModified, .gitHasUntracked,
   .gitHasConflicts, .gitFileIn, .sessionGet, .projectGet, .regexMatch, .lower]

/-- The name by which a condition calls a function. -/
def name : Builtin → String
  | isPathUnder => "is_path_under"
  | fileExists => "file_exists"
  | isExecutable => "is_executable"
  | isDir => "is_dir"
  | matchesGlob => "matches_glob"
  | env => "env"
  | isGitRepo => "is_git_repo"
  | isStaged => "is_staged"
  | isModified => "is_modified"
  | hasConflicts => "has_conflicts"
  | currentBranch => "current_branch"
  | gitHasStaged => "git_has_staged"
  | gitHasModified => "git_has_modified"
  | gitHasUntracked => "git_has_untracked"
  | gitHasConflicts => "git_has_conflicts"
  | gitFileIn => "git_file_in"
  | sessionGet => "session_get"
  | projectGet => "project_get"
  | regexMatch => "regex_match"
  | lower => "lower"

/-- The parameters as messages show them. -/
def parameters : Builtin → String
  | isPathUnder => "path, base"
  | fileExists | isExecutable | isDir | isStaged | isModified => "path"
  | matchesGlob => "path, pattern"
  | env => "name"
  | isGitRepo | hasConflicts | currentBranch => ""
  | gitHasStaged | gitHasModified | gitHasUntracked | gitHasConflicts => "pattern?"
  | gitFileIn => "path, set_name"
  | sessionGet | projectGet => "key"
  | regexMatch => "value, pattern"
  | lower => "value"

/-- A function with its parameters, as messages show it. -/
def signature (f : Builtin) : String := f.name ++ "(" ++ f.parameters ++ ")"

/-- The least number of arguments. -/
def minArgs : Builtin → Nat
  | isPathUnder | matchesGlob | gitFileIn | regexMatch => 2
  | isGitRepo | hasConflicts | currentBranch => 0
  | gitHasStaged | gitHasModified | gitHasUntracked | gitHasConflicts => 0
  | _ => 1

/-- The greatest number of arguments. -/
def maxArgs : Builtin → Nat
  | isPathUnder | matchesGlob | gitFileIn | regexMatch => 2
  | isGitRepo | hasConflicts | currentBranch => 0
  | _ => 1

/-- The function of a name, found by going through the catalog. -/
def ofName? (s : String) : Option Builtin := all.find? fun f => f.name == s

@[simp] theorem ofName?_name (f : Builtin) : ofName? f.name = some f := by
  cases f <;> decide

/-- A name is found exactly if an entry of the catalog has it. -/
theorem ofName?_eq_none_iff (name : String) :
    ofName? name = none ↔ name ∉ all.map Builtin.name := by
  unfold ofName?
  rw [List.find?_eq_none, List.mem_map]
  constructor
  · rintro hnone ⟨f, hf, rfl⟩
    exact hnone f hf (beq_self_eq_true _)
  · intro hnone f hf heq
    exact hnone ⟨f, hf, beq_iff_eq.mp heq⟩

end Builtin

/-- Why a call has no value. -/
inductive CallError where
  | unknown (name : String)
  | arity (f : Builtin) (got : Nat)
deriving DecidableEq

/-- The text of an error. A function with one admissible number of arguments
shows just that, others the range. -/
def CallError.message : CallError → String
  | .unknown name => "Unknown function '" ++ name ++ "'"
  | .arity f got =>
    let expected :=
      if f.minArgs = f.maxArgs then Nat.repr f.minArgs
      else Nat.repr f.minArgs ++ "-" ++ Nat.repr f.maxArgs
    f.signature ++ " takes " ++ expected ++ " argument(s), got " ++ Nat.repr got

end HookRules
