/-
The command line.

Of the machine it sees the working directory, the files that the arguments name,
the variables of the environment, standard input and the time. The programs of
actions are the standard ones.
-/
import HookRules.CommandLine.Report
import HookRules.Shell.Runner
import Std.Time

namespace HookRules

namespace CommandLine

/-- The text of a file, if it can be read. -/
def readText? (path : String) : IO (Option String) := do
  try
    return some (← IO.FS.readFile path)
  catch _ =>
    return none

/-- The variables of the environment. -/
def readEnvironment : IO (List (String × String)) := do
  let text := (← readText? "/proc/self/environ").getD ""
  return (text.splitOn "\x00").filterMap fun entry =>
    match entry.toList.span (· != '=') with
    | (name, _ :: value) => some (String.ofList name, String.ofList value)
    | _ => none

/-- The names on the way to an absolute path without dots. -/
def namesOf (path : String) : List String :=
  (Path.normalize (Path.components path)).filterMap fun
    | .name s => some s
    | _ => none

/-- A tree with a working directory, the standard programs and some files. -/
def treeOf (directory : String) (files : List (String × String)) : FileTree :=
  let machine := Shell.Standard.install ["usr", "bin"]
    (FileTree.empty.insert (namesOf directory) .empty)
  files.foldl (fun t (path, text) => t.insert (namesOf (Path.join directory path)) (.file text 0o644))
    machine

/-- The time as text. -/
def readTime : IO String := do
  let time := Std.Time.DateTime.ofTimestamp (← Std.Time.Timestamp.now) .UTC
  return time.format "uuuu-MM-dd'T'HH:mm:ss.SSSSSSSSSxxx"

/-- What the machine is when an invocation starts. -/
def readSurroundings (i : Invocation) : IO Surroundings := do
  let directory := (← IO.currentDir).toString
  let env ← readEnvironment
  let files ← i.files.filterMapM fun path => do
    return (← readText? path).map fun text => (path, text)
  let host : Host := {
    files := treeOf directory files
    home := env.lookup "HOME"
    directory }
  let stdin ← if i.readsInput then readText? "/dev/stdin" else pure none
  return {
    host
    runner := Shell.runner host env
    env := fun name => env.lookup name
    stdin := stdin.getD ""
    timestamp := ← readTime
    clock := ⟨← readTime, ← readTime⟩ }

end CommandLine

end HookRules

open HookRules CommandLine in
/-- Answers the arguments. -/
def main (args : List String) : IO UInt32 := do
  let r ← match Invocation.ofArguments args with
    | .error f => pure (Report.ofUsage f)
    | .ok i => pure (report (← readSurroundings i) i)
  IO.print r.stdout
  if let some f := r.failure then IO.eprintln ("Error: " ++ f.message)
  if let some f := r.usage then IO.eprintln ("error: " ++ f.message)
  return r.exit.toUInt32
