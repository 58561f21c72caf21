/-
The catalog bound to one event.

A registry holds the data that the functions answer from. A call asks the catalog
for the number of arguments and then answers by the name. Only the number of
arguments can make a call of a known name fail: an argument of a wrong type makes
a predicate false and every other function null.
-/
import HookRules.Context
import HookRules.Function.Catalog
import HookRules.Glob
import HookRules.Host
import HookRules.Regex.Search
import HookRules.Store
import HookRules.Text.Blank
import HookRules.Text.Lower

namespace HookRules

structure Registry where
  host : Host
  cwd : String
  git : Option GitState := none
  sessionId : String := ""
  stores : Stores := {}
  env : String → Option String := fun _ => none

namespace Registry

/-- The registry of a context, without stores and environment. -/
def ofContext (host : Host) (c : Context) : Registry where
  host := host
  cwd := c.cwd
  git := c.git
  sessionId := c.sessionId

-- ============================================================== globs

/-- A glob against a whole path, and against the file name alone if the glob
has no separator. -/
def matchesGlob (path pattern : String) : Bool :=
  match Glob.ofText pattern with
  | .error _ => false
  | .ok g =>
    g.accepts path ||
      (!pattern.toList.contains '/' && (Path.fileName? path).any fun name => g.accepts name)

/-- Whether a pattern is found in a text; what is no pattern is not found. -/
def regexMatch (text pattern : String) : Bool :=
  match Regex.ofText pattern with
  | .error _ => false
  | .ok r => r.isMatch text

-- ================================================================ git

/-- A text without the copies of `./` at its start. -/
def dropDotSlash (s : String) : String :=
  String.ofList (Text.dropLeading ['.', '/'] s.toList)

/-- Whether an entry of a file set is meant by a path: in the same words, below
the working directory, or after a leading dot. -/
def entryMatches (cwd path entry : String) : Bool :=
  entry == path || (Path.relativeTo? path cwd).any (fun rel => dropDotSlash rel == entry)
    || dropDotSlash path == entry

/-- Whether a path is meant by an entry of a file set. -/
def fileIn (r : Registry) (path : String) (set : GitFileSet) : Bool :=
  r.git.any fun g => (g.files set).any fun entry => entryMatches r.cwd path entry

/-- Whether a file set has an entry that a pattern means. A pattern that is no
glob means the entry that it spells. -/
def hasEntry (r : Registry) (set : GitFileSet) (pattern : Option Json) : Bool :=
  r.git.any fun g =>
    let files := g.files set
    match pattern with
    | none | some .null => !files.isEmpty
    | some (.str p) =>
      match Glob.ofText p with
      | .ok glob => files.any fun f => f == p || glob.accepts f
      | .error _ => files.any fun f => f == p
    | some _ => false

-- ============================================================== calls

/-- A predicate of one text. -/
def test (p : String → Bool) (arg : Option Json) : Json :=
  .bool ((arg.bind Json.str?).any p)

/-- A predicate of two texts. -/
def test₂ (p : String → String → Bool) (args : List Json) : Json :=
  match args with
  | [.str a, .str b] => .bool (p a b)
  | _ => .bool false

/-- A value computed from one text. -/
def value (f : String → Json) (arg : Option Json) : Json :=
  match arg with
  | some (.str s) => f s
  | _ => .null

/-- The answer of the function of a name to arguments of the right number, if the
name has a function. -/
def answer? (r : Registry) (name : String) (args : List Json) : Option Json :=
  let arg := args.head?
  match name with
  | "is_path_under" => some (test₂ (r.host.isPathUnder r.cwd) args)
  | "file_exists" => some (test (r.host.fileExists r.cwd) arg)
  | "is_executable" => some (test (r.host.isExecutable r.cwd) arg)
  | "is_dir" => some (test (r.host.isDir r.cwd) arg)
  | "matches_glob" => some (test₂ matchesGlob args)
  | "env" => some (value (fun name => .ofOption (r.env name)) arg)
  | "is_git_repo" => some (.bool (r.host.isGitRepo r.cwd))
  | "is_staged" => some (test (fun path => r.fileIn path .staged) arg)
  | "is_modified" => some (test (fun path => r.fileIn path .modified) arg)
  | "has_conflicts" => some (.bool (r.git.any (·.hasConflicts)))
  | "current_branch" => some (.ofOption (r.git.bind (·.branch)))
  | "git_has_staged" => some (.bool (r.hasEntry .staged arg))
  | "git_has_modified" => some (.bool (r.hasEntry .modified arg))
  | "git_has_untracked" => some (.bool (r.hasEntry .untracked arg))
  | "git_has_conflicts" => some (.bool (r.hasEntry .conflicts arg))
  | "git_file_in" =>
    some (test₂ (fun path name => (GitFileSet.ofName? name).any (r.fileIn path)) args)
  | "session_get" => some (value (r.stores.sessionValue r.sessionId) arg)
  | "project_get" => some (value r.stores.projectValue arg)
  | "regex_match" => some (test₂ regexMatch args)
  | "lower" => some (value (fun s => .str (Text.lower s)) arg)
  | _ => none

/-- A call by name. The catalog says whether the name is known and how many
arguments it takes; what it answers is found by the name once more. -/
def call (r : Registry) (name : String) (args : List Json) : Except CallError Json :=
  match Builtin.ofName? name with
  | none => .error (.unknown name)
  | some f =>
    if f.minArgs ≤ args.length ∧ args.length ≤ f.maxArgs then
      match r.answer? name args with
      | some v => .ok v
      | none => .error (.unknown name)
    else .error (.arity f args.length)

/-- What a function of the catalog answers. -/
def answer (r : Registry) (f : Builtin) (args : List Json) : Json :=
  (r.answer? f.name args).getD .null

/-- Every name of the catalog has an answer, so a call that the catalog lets pass
does not end at a name without a function. -/
theorem answer?_name (r : Registry) (f : Builtin) (args : List Json) :
    r.answer? f.name args = some (r.answer f args) := by
  cases f <;> rfl

/-- A call of a name of the catalog depends on the number of its arguments. -/
theorem call_name (r : Registry) (f : Builtin) (args : List Json) :
    r.call f.name args
      = if f.minArgs ≤ args.length ∧ args.length ≤ f.maxArgs then
          .ok (r.answer f args)
        else .error (.arity f args.length) := by
  unfold call
  rw [Builtin.ofName?_name]
  dsimp only
  rw [answer?_name]

/-- A name that is not in the catalog cannot be called. -/
theorem call_unknown {name : String}
    (h : name ∉ Builtin.all.map Builtin.name) (r : Registry)
    (args : List Json) : r.call name args = .error (.unknown name) := by
  unfold call
  rw [(Builtin.ofName?_eq_none_iff name).mpr h]

end Registry

end HookRules
