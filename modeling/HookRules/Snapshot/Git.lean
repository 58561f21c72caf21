/-
A snapshot of a repository.

The branch and the last commit, and four sets of files with paths relative to
the repository. A set is kept in ascending order and without repetitions.
-/
import HookRules.Json.Decode
import HookRules.Json.Reader

namespace HookRules

/-- Puts a text into an ascending list without repetitions. -/
def insertSorted (s : String) : List String → List String
  | [] => [s]
  | t :: ts =>
    if s < t then s :: t :: ts
    else if s = t then t :: ts
    else t :: insertSorted s ts

/-- The texts of a list in ascending order, each once. -/
def sortedSet (ss : List String) : List String := ss.foldl (fun acc s => insertSorted s acc) []

structure GitState where
  branch : Option String := none
  headCommit : Option String := none
  isDirty : Bool := false
  staged : List String := []
  modified : List String := []
  untracked : List String := []
  conflicts : List String := []
deriving DecidableEq, Inhabited

/-- One of the file sets of a snapshot. -/
inductive GitFileSet where
  | staged | modified | untracked | conflicts
deriving DecidableEq

namespace GitFileSet

def ofName? : String → Option GitFileSet
  | "staged" => some .staged
  | "modified" => some .modified
  | "untracked" => some .untracked
  | "conflict" | "conflicts" => some .conflicts
  | _ => none

end GitFileSet

namespace GitState

def files (g : GitState) : GitFileSet → List String
  | .staged => g.staged
  | .modified => g.modified
  | .untracked => g.untracked
  | .conflicts => g.conflicts

def hasConflicts (g : GitState) : Bool := !g.conflicts.isEmpty

/-- The names of the fields of a written snapshot. -/
def fieldNames : List String :=
  ["branch", "head_commit", "is_dirty", "staged_files", "modified_files", "untracked_files",
   "conflict_files"]

/-- The snapshot of a record's fields; every field may be left out. -/
def ofFields? (fs : List (String × Json)) : Option GitState := do
  let set (name : String) : Option (List String) :=
    (Fields.default? fs name [] (Json.list? Json.str?)).map sortedSet
  return {
    branch := ← Fields.optional? fs "branch" Json.str?
    headCommit := ← Fields.optional? fs "head_commit" Json.str?
    isDirty := ← Fields.default? fs "is_dirty" false Json.bool?
    staged := ← set "staged_files"
    modified := ← set "modified_files"
    untracked := ← set "untracked_files"
    conflicts := ← set "conflict_files" }

/-- The snapshot of a JSON value. -/
def ofJson? (v : Json) : Option GitState := (v.record? fieldNames).bind ofFields?

/-- The snapshot of JSON text, in which no field may be given twice. -/
def ofText? (s : String) : Option GitState := (Json.readRecord? s).bind ofJson?

end GitState

end HookRules
