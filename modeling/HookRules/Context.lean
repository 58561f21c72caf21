/-
The evaluation context.

A context is an event with the place it happened at and the snapshots taken for
it. Conditions and templates see it as one flat object, whose keys are the
same for every event: what an event does not have is null, empty or zero.
-/
import HookRules.Event.Basic
import HookRules.Snapshot.Git
import HookRules.Snapshot.Project

namespace HookRules

structure Context where
  event : Event
  cwd : String
  projectDir : Option String := none
  git : Option GitState := none
  project : Option ProjectState := none

namespace Context

/-- The keys of the flat view. -/
def fieldNames : List String :=
  ["hook_type", "session_id", "timestamp", "cwd", "project_dir", "permission_mode",
   "transcript_path", "tool_name", "tool_input", "tool_output", "tool_use_id", "prompt",
   "git_branch", "git_head_commit", "git_is_dirty", "git_has_conflicts", "git_staged_files",
   "git_modified_files", "git_untracked_files", "git_conflict_files", "project_staged_count",
   "project_modified_count", "project_untracked_count", "project_files_changed",
   "project_insertions", "project_deletions", "project_recent_commits"]

/-- The context of an event. An event without a working directory happens in
the directory of the running program. -/
def ofEvent (directory : String) (event : Event) : Context where
  event := event
  cwd := if event.common.cwd = "" then directory else event.common.cwd

def kind (c : Context) : EventKind := c.event.kind

def sessionId (c : Context) : String := c.event.common.sessionId

/-- A file set of the snapshot, as a list. -/
def fileList (c : Context) (set : GitFileSet) : Json :=
  .arr (((c.git.map fun g => g.files set).getD []).map Json.str)

/-- A count of the project snapshot. -/
def count (c : Context) (f : ProjectState → Nat) : Json :=
  .ofInt ((c.project.map f).getD 0)

/-- The fields of the flat view in the order of `fieldNames`. The time at which
the view is taken is a text. -/
def entries (c : Context) (timestamp : String) : List (String × Json) :=
  let call := c.event.call?
  [("hook_type", .str c.kind.ruleName),
   ("session_id", .str c.sessionId),
   ("timestamp", .str timestamp),
   ("cwd", .str c.cwd),
   ("project_dir", .ofOption c.projectDir),
   ("permission_mode", .str c.event.common.permissionMode.name),
   ("transcript_path", .str c.event.common.transcriptPath),
   ("tool_name", .ofOption (call.map (·.name))),
   ("tool_input", (call.map (·.input)).getD .null),
   ("tool_output", c.event.toolResponse?.getD .null),
   ("tool_use_id", .ofOption (call.bind (·.useId))),
   ("prompt", .ofOption c.event.prompt?),
   ("git_branch", .ofOption (c.git.bind (·.branch))),
   ("git_head_commit", .ofOption (c.git.bind (·.headCommit))),
   ("git_is_dirty", .bool (c.git.any (·.isDirty))),
   ("git_has_conflicts", .bool (c.git.any (·.hasConflicts))),
   ("git_staged_files", c.fileList .staged),
   ("git_modified_files", c.fileList .modified),
   ("git_untracked_files", c.fileList .untracked),
   ("git_conflict_files", c.fileList .conflicts),
   ("project_staged_count", c.count (·.stagedCount)),
   ("project_modified_count", c.count (·.modifiedCount)),
   ("project_untracked_count", c.count (·.untrackedCount)),
   ("project_files_changed", c.count (·.diffStats.filesChanged)),
   ("project_insertions", c.count (·.diffStats.insertions)),
   ("project_deletions", c.count (·.diffStats.deletions)),
   ("project_recent_commits",
    .arr (((c.project.map (·.recentCommits)).getD []).map CommitSummary.toJson))]

/-- The flat view of a context. -/
def view (c : Context) (timestamp : String) : Fields := Fields.ofList (c.entries timestamp)

/-- The keys of the flat view are the declared ones. -/
theorem entries_keys (c : Context) (timestamp : String) :
    (c.entries timestamp).map (·.1) = fieldNames := rfl

end Context

end HookRules
