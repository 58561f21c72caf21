/-
Running the programs of actions.

A program that is a path is started from its directory, any other is looked for
in the search path. It sees the variables of the machine and those of the
request.
-/
import HookRules.Automation.Process
import HookRules.Shell.Run

namespace HookRules

namespace Shell

/-- How deep commands and shells may be inside each other. -/
def maxDepth : Nat := 10000

/-- The state in which a program starts. -/
def State.start (host : Host) (env : List (String × String)) (r : ProcessRequest) : State :=
  let directory := host.absolute (r.directory.getD host.directory)
  let names := (host.files.locate? directory).getD []
  let bindings := (env ++ r.env).foldl
    (fun (t : Table Variable) (name, value) => t.set name { value, exported := true }) []
  { name := r.program
    bindings
    directory := "/" ++ "/".intercalate names
    files := host.files
    input := Bytes.ofText (r.stdin.getD "") }

/-- What a program has done when it has ended. -/
def State.result (s : State) : ProcessRun where
  elapsedMs := max s.elapsedMs s.backgroundMs
  status :=
    match s.flow with
    | .killed signal _ => .signaled signal
    | _ => .exited s.status
  stdout := s.written 0
  stderr := s.written 1

/-- The program behind a request, with the path at which it was found. What names
another program can be run only if that one can. -/
def programOf (s : State) (hasPath : Bool) (r : ProcessRequest) :
    Except SpawnFault (String × Standard.Program) :=
  let search := (s.value? "PATH").getD Standard.searchPath
  match Standard.find s.files s.directory search r.program with
  | .error fault => .error fault
  | .ok (path, .standard tool) => .ok (path, .standard tool)
  | .ok (path, .unknown text) =>
    if hasPath && !r.program.toList.contains '/' then .ok (path, .unknown text)
    else .error .notExecutable
  | .ok (path, .interpreted line) =>
    match Standard.interpreter? line with
    | none => .error .notExecutable
    | some (interpreter, _) =>
      (Standard.find s.files s.directory "" interpreter).map fun _ => (path, .interpreted line)

/-- Runs programs on a machine where these variables are set. -/
def runner (host : Host) (env : List (String × String)) : Runner := fun r =>
  let s := State.start host env r
  match programOf s (r.env.any (·.1 == "PATH")) r with
  | .error fault => .error (.notStarted fault)
  | .ok (path, p) =>
    .ok ((Run.started maxDepth { isLast := true } r.program path r.args p).run s).2.result

end Shell

end HookRules
