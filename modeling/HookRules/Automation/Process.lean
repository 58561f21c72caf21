/-
Subprocesses of actions.

An action names a command line, which a shell runs, or a script, which is split
into a program and its arguments. What running a program does is not decided
here: a `Runner` answers requests. Its output is read as text and cut to the
size that the settings allow.
-/
import HookRules.Automation.Entrypoint
import HookRules.Automation.Words
import HookRules.Context
import HookRules.Host
import HookRules.Json.Printer
import HookRules.Rule.Basic
import HookRules.Settings
import HookRules.Text.Utf8

namespace HookRules

/-- A program that is to be run. -/
structure ProcessRequest where
  program : String
  args : List String
  /-- The working directory; the one of the running program if there is none. -/
  directory : Option String
  /-- Variables added to the environment. -/
  env : List (String × String)
  /-- What can be read from standard input; nothing at all if there is none. -/
  stdin : Option String

/-- What a program did. -/
structure ProcessRun where
  elapsedMs : Nat
  status : ExitStatus
  stdout : List UInt8
  stderr : List UInt8

/-- Why nothing is known of what a program did. -/
inductive RunFault where
  /-- It did not start. -/
  | notStarted (fault : SpawnFault)
  /-- It started, and after a time waiting for it or reading what it wrote
  failed. -/
  | lost (elapsedMs : Nat) (error : SystemError)

/-- Runs programs. -/
abbrev Runner := ProcessRequest → Except RunFault ProcessRun

/-- The output of a program that ended within its time. -/
structure ProcessOutput where
  stdout : String
  stderr : String
  status : ExitStatus

/-- Everything that an action may read. -/
structure Occasion where
  context : Context
  /-- The flat view of the context. -/
  view : Fields
  rule : Rule
  settings : Settings
  entrypoints : Entrypoints
  host : Host
  runner : Runner

namespace Process

/-- The directory in which an action works. -/
def workdir (o : Occasion) (a : Action) : String :=
  match a.cwd with
  | some dir => Path.resolve o.host.home o.context.cwd dir
  | none => o.context.cwd

/-- The program of a script, seen from the working directory if it is a path. -/
def programPath (o : Occasion) (dir program : String) : String :=
  if program.toList.contains '/' || program.toList.head? == some '~' then
    Path.resolve o.host.home dir program
  else program

/-- The program and the arguments that an action names. -/
def commandOf (o : Occasion) (a : Action) : Except ActionFault (String × List String) :=
  match a.command, a.script with
  | some line, _ => .ok (o.settings.shellFor a.shell, ["-c", line])
  | none, some script =>
    match Words.split? script with
    | none => .error (.config (.openQuote script))
    | some [] => .error (.config .emptyScript)
    | some (program :: args) => .ok (programPath o (workdir o a) program, args)
  | none, none => .error (.config (.noProgram a.kind))

/-- What an action asks a runner for. The variables about the event come last,
so an action cannot replace them. -/
def request (o : Occasion) (a : Action) (standard : StdinMode) :
    Except ActionFault ProcessRequest :=
  (commandOf o a).map fun (program, args) =>
    let dir := workdir o a
    { program
      args
      directory := if o.host.files.isDir (o.host.absolute dir) then some dir else none
      env := a.env ++
        [("HOOKWISE_HOOK_TYPE", o.context.kind.ruleName),
         ("HOOKWISE_SESSION_ID", o.context.sessionId),
         ("HOOKWISE_RULE_ID", o.rule.id)]
      stdin := match a.stdin.getD standard with
        | .json => some (Json.obj o.view).render
        | .none => none }

/-- Whether a text can be handed to a program. -/
def isPassable (s : String) : Bool := !s.toList.contains '\x00'

/-- Whether everything in a request can be handed to a program. -/
def isValid (r : ProcessRequest) : Bool :=
  isPassable r.program && r.args.all isPassable &&
    r.env.all (fun (k, v) => isPassable k && isPassable v)

/-- Runs what an action names, within its time limit. The limit is on the wait, so
it also overtakes a loss that would have come later. -/
def run (o : Occasion) (a : Action) (standard : StdinMode) :
    Except ActionFault ProcessOutput :=
  (request o a standard).bind fun r =>
    let limit := o.settings.timeoutFor a.timeoutMs
    let started := if isValid r then o.runner r else .error (.notStarted .nulCharacter)
    match started with
    | .error (.notStarted fault) => .error (.spawn r.program fault)
    | .error (.lost elapsedMs error) =>
      if overruns limit elapsedMs then .error (.timeout limit) else .error (.system error)
    | .ok run =>
      if overruns limit run.elapsedMs then .error (.timeout limit)
      else .ok {
        stdout := (Text.decodeUpTo o.settings.maxOutputBytes run.stdout).1
        stderr := (Text.decodeUpTo o.settings.maxOutputBytes run.stderr).1
        status := run.status }

end Process

end HookRules
