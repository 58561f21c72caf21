/-
How an action can fail.

A failure never ends a pass; it is recorded with its message, and the pass goes
on. Refusals are not among them.
-/
import HookRules.Regex.Program
import HookRules.Rule.Action

namespace HookRules

/-- How a process ended. -/
inductive ExitStatus where
  | exited (code : Nat)
  | signaled (signal : Nat)
deriving DecidableEq

namespace ExitStatus

def succeeded (s : ExitStatus) : Bool := s == .exited 0

/-- The names of the signals. -/
def signalName : Nat → String
  | 1 => "SIGHUP"
  | 2 => "SIGINT"
  | 3 => "SIGQUIT"
  | 4 => "SIGILL"
  | 5 => "SIGTRAP"
  | 6 => "SIGABRT"
  | 7 => "SIGBUS"
  | 8 => "SIGFPE"
  | 9 => "SIGKILL"
  | 10 => "SIGUSR1"
  | 11 => "SIGSEGV"
  | 12 => "SIGUSR2"
  | 13 => "SIGPIPE"
  | 14 => "SIGALRM"
  | 15 => "SIGTERM"
  | 16 => "SIGSTKFLT"
  | 17 => "SIGCHLD"
  | 18 => "SIGCONT"
  | 19 => "SIGSTOP"
  | 20 => "SIGTSTP"
  | 21 => "SIGTTIN"
  | 22 => "SIGTTOU"
  | 23 => "SIGURG"
  | 24 => "SIGXCPU"
  | 25 => "SIGXFSZ"
  | 26 => "SIGVTALRM"
  | 27 => "SIGPROF"
  | 28 => "SIGWINCH"
  | 29 => "SIGIO"
  | 30 => "SIGPWR"
  | 31 => "SIGSYS"
  | _ => ""

def describe : ExitStatus → String
  | exited code => "exit status: " ++ Nat.repr code
  | signaled signal =>
    let name := signalName signal
    "signal: " ++ Nat.repr signal ++ (if name = "" then "" else " (" ++ name ++ ")")

end ExitStatus

/-- An error that the operating system reports, or that is reported in its
place. -/
inductive SystemError where
  | numbered (code : Nat) (text : String)
  | other (text : String)
deriving DecidableEq

def SystemError.message : SystemError → String
  | .numbered code text => text ++ " (os error " ++ Nat.repr code ++ ")"
  | .other text => text

/-- Why a process did not start: what can be wrong with its program, or anything
else that the system runs out of. -/
inductive SpawnFault where
  | notFound
  | notPermitted
  | notDirectory
  | notExecutable
  /-- A NUL character in the program, an argument or the environment. -/
  | nulCharacter
  | system (error : SystemError)
deriving DecidableEq

/-- What the system reports when a process does not start. -/
def SpawnFault.error : SpawnFault → SystemError
  | .notFound => .numbered 2 "No such file or directory"
  | .notPermitted => .numbered 13 "Permission denied"
  | .notDirectory => .numbered 20 "Not a directory"
  | .notExecutable => .numbered 8 "Exec format error"
  | .nulCharacter => .other "nul byte found in provided data"
  | .system error => error

def SpawnFault.message (f : SpawnFault) : String := f.error.message

/-- What an action is missing or has wrong. -/
inductive ConfigFault where
  | noContent (kind : ActionKind)
  | noField
  | noPattern
  | badPattern (fault : Regex.Fault)
  | noProducer
  | noProgram (kind : ActionKind)
  | openQuote (script : String)
  | emptyScript
  | noEntrypoint
deriving DecidableEq

def ConfigFault.message : ConfigFault → String
  | .noContent kind => kind.name ++ " action requires 'content'"
  | .noField => "modify action requires 'field'"
  | .noPattern => "replace operation requires 'pattern'"
  | .badPattern fault => "invalid pattern: " ++ fault.message
  | .noProducer => "transform action requires 'entrypoint', 'command' or 'script'"
  | .noProgram kind => kind.name ++ " action requires 'command' or 'script'"
  | .openQuote script => "cannot split script '" ++ script ++ "': missing closing quote"
  | .emptyScript => "script is empty"
  | .noEntrypoint => "python action requires 'entrypoint'"

/-- Why something that ran did not succeed. -/
inductive ExecutionFault where
  | panicked (entrypoint : String)
  | refused (message : String)
  | exited (code : Nat)
  | killed
  | transformEnded (status : ExitStatus) (stderr : String)
deriving DecidableEq

def ExecutionFault.message : ExecutionFault → String
  | .panicked entrypoint => entrypoint ++ " panicked"
  | .refused message => message
  | .exited code => "exited with status " ++ Nat.repr code
  | .killed => "terminated by signal"
  | .transformEnded status stderr =>
    "transform exited with " ++ status.describe ++ ": " ++ stderr

/-- A failed action. -/
inductive ActionFault where
  | timeout (limitMs : Nat)
  | spawn (program : String) (fault : SpawnFault)
  | config (fault : ConfigFault)
  | invalidEntrypoint (entrypoint : String)
  | moduleNotFound (name : String)
  | symbolNotFound (module symbol : String)
  | notCallable (entrypoint : String)
  | execution (fault : ExecutionFault)
  /-- A process was lost after it had started. -/
  | system (error : SystemError)
deriving DecidableEq

def ActionFault.message : ActionFault → String
  | .timeout limitMs => "Timed out after " ++ Nat.repr limitMs ++ "ms"
  | .spawn program fault => "Failed to spawn '" ++ program ++ "': " ++ fault.message
  | .config fault => "Invalid action configuration: " ++ fault.message
  | .invalidEntrypoint entrypoint =>
    "Invalid entrypoint '" ++ entrypoint ++ "' (expected 'module.path:function')"
  | .moduleNotFound name => "Module '" ++ name ++ "' not found"
  | .symbolNotFound module symbol =>
    "Symbol '" ++ symbol ++ "' not found in module '" ++ module ++ "'"
  | .notCallable entrypoint => "'" ++ entrypoint ++ "' is not callable"
  | .execution fault => "Execution failed: " ++ fault.message
  | .system error => "I/O error: " ++ error.message

end HookRules
