/-
A snapshot of a project's changes.

Counts of changed files, the size of the working tree's difference and the
recent commits.
-/
import HookRules.Json.Decode

namespace HookRules

/-- How much the working tree differs from the last commit. -/
structure DiffStats where
  filesChanged : Nat := 0
  insertions : Nat := 0
  deletions : Nat := 0
deriving DecidableEq, Inhabited

/-- A commit in short. Nothing of it is looked into, it is only shown. -/
structure CommitSummary where
  sha : String := ""
  message : String := ""
  author : String := ""
deriving DecidableEq, Inhabited

/-- The snapshot of a project. A part that was not given counts as nothing
changed. -/
structure ProjectState where
  stagedCount : Nat := 0
  modifiedCount : Nat := 0
  untrackedCount : Nat := 0
  diffStats : DiffStats := {}
  recentCommits : List CommitSummary := []
deriving DecidableEq, Inhabited

namespace DiffStats

def ofJson? (v : Json) : Option DiffStats := do
  let fs ← v.record? ["files_changed", "insertions", "deletions"]
  return {
    filesChanged := ← Fields.default? fs "files_changed" 0 Json.nat64?
    insertions := ← Fields.default? fs "insertions" 0 Json.nat64?
    deletions := ← Fields.default? fs "deletions" 0 Json.nat64? }

end DiffStats

namespace CommitSummary

def ofJson? (v : Json) : Option CommitSummary := do
  let fs ← v.record? ["sha", "message", "author"]
  return {
    sha := ← Fields.default? fs "sha" "" Json.str?
    message := ← Fields.default? fs "message" "" Json.str?
    author := ← Fields.default? fs "author" "" Json.str? }

def toJson (c : CommitSummary) : Json :=
  .ofFields [("sha", .str c.sha), ("message", .str c.message), ("author", .str c.author)]

end CommitSummary

namespace ProjectState

/-- The snapshot of a JSON value; every field may be left out. -/
def ofJson? (v : Json) : Option ProjectState := do
  let fs ← v.record?
    ["staged_count", "modified_count", "untracked_count", "diff_stats", "recent_commits"]
  return {
    stagedCount := ← Fields.default? fs "staged_count" 0 Json.nat64?
    modifiedCount := ← Fields.default? fs "modified_count" 0 Json.nat64?
    untrackedCount := ← Fields.default? fs "untracked_count" 0 Json.nat64?
    diffStats := ← Fields.default? fs "diff_stats" {} DiffStats.ofJson?
    recentCommits := ← Fields.default? fs "recent_commits" [] (Json.list? CommitSummary.ofJson?) }

end ProjectState

end HookRules
