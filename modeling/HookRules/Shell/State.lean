/-
The state of a running shell.

Output goes to numbered channels, each of which leads to a buffer, a file or
nowhere. Buffers zero and one are the two outputs of the whole run; others are
made when the output of a command is wanted.
-/
import HookRules.Shell.Command
import HookRules.Shell.Tool

namespace HookRules

namespace Shell

inductive Sink where
  | buffer (index : Nat)
  | nowhere
  | file (path : String)

/-- How a command leaves the ones around it. -/
inductive Flow where
  | onward
  | exits
  /-- A signal ends the shell that runs at some depth. -/
  | killed (signal depth : Nat)
  /-- Leaves loops, or starts the outermost of them again. -/
  | breaks (loops : Nat) (again : Bool)
  | returns
deriving DecidableEq

structure Variable where
  value : String
  exported : Bool := false
  fixed : Bool := false

/-- How shells differ. -/
inductive Dialect where
  /-- Printing replaces escapes, and messages give the number of the line alone. -/
  | plain
  /-- Printing replaces escapes on demand, and messages say that a line is meant. -/
  | extended
deriving DecidableEq

structure State where
  /-- The name under which the shell was started. -/
  name : String
  dialect : Dialect := .plain
  args : List String := []
  bindings : Table Variable := []
  functions : Table Command := []
  directory : String
  files : FileTree
  home : Option String := none
  input : Bytes := []
  /-- What was written to each buffer, last piece first. -/
  buffers : Array (List Bytes) := #[[], []]
  channels : List (Nat × Sink) := [(1, .buffer 0), (2, .buffer 1)]
  status : Nat := 0
  flow : Flow := .onward
  /-- How long everything took so far. -/
  elapsedMs : Nat := 0
  /-- When the last command in the background ends. -/
  backgroundMs : Nat := 0
  /-- How many shells run inside each other. -/
  depth : Nat := 0
  /-- The number of line ends in the text that runs. -/
  lineEnds : Nat := 0
  /-- The line of the command that runs. -/
  line : Nat := 1
  /-- How many loops run inside each other. -/
  loops : Nat := 0
  /-- How many functions run inside each other. -/
  calls : Nat := 0
  /-- The letters of the options that are set. -/
  options : List Char := []
  /-- What runs when a signal arrives, or when the shell ends for signal zero. -/
  traps : List (Nat × String) := []
  /-- What is still to run for signals that have arrived. -/
  pending : List String := []
  /-- Variables of functions that run, with what they were before. -/
  locals : List (String × Option Variable) := []
  /-- The status of the last command whose output was wanted, since it was cleared. -/
  outputStatus : Option Nat := none

namespace State

/-- The number of the process that a shell takes itself for. -/
def processAt (depth : Nat) : String := Nat.repr (4000 + depth)

def process (s : State) : String := processAt s.depth

def value? (s : State) (name : String) : Option String :=
  (s.bindings.get? name).map (·.value)

def setVariable (s : State) (name value : String) : State :=
  let old := (s.bindings.get? name).getD { value }
  { s with bindings := s.bindings.set name { old with value } }

def exportVariable (s : State) (name : String) : State :=
  let old := (s.bindings.get? name).getD { value := "" }
  { s with bindings := s.bindings.set name { old with exported := true } }

/-- Makes the value of a variable final. -/
def fixVariable (s : State) (name : String) : State :=
  let old := (s.bindings.get? name).getD { value := "" }
  { s with bindings := s.bindings.set name { old with fixed := true } }

def unsetVariable (s : State) (name : String) : State :=
  { s with bindings := s.bindings.filter (·.1 != name) }

/-- Makes a variable what it was before. -/
def restoreVariable (s : State) (name : String) : Option Variable → State
  | some v => { s with bindings := s.bindings.set name v }
  | none => s.unsetVariable name

/-- The value of a name after a dollar sign. -/
def look? (s : State) (name : String) : Option String :=
  match name with
  | "?" => some (Nat.repr s.status)
  | "#" => some (Nat.repr s.args.length)
  | "$" => some s.process
  | "-" => some (String.ofList s.options)
  | "!" => some ""
  | "0" => some s.name
  | "@" | "*" => if s.args.isEmpty then none else some (" ".intercalate s.args)
  | _ =>
    match name.toNat? with
    | some n => s.args[n - 1]?
    | none => s.value? name

/-- The characters at which values are split. -/
def separators (s : State) : List Char := ((s.value? "IFS").getD " \t\n").toList

def hasOption (s : State) (letter : Char) : Bool := s.options.contains letter

/-- The variables that programs see. -/
def environment (s : State) : List (String × String) :=
  (s.bindings.filter (·.2.exported)).map fun (name, v) => (name, v.value)

/-- What was written to a buffer. -/
def written (s : State) (index : Nat) : Bytes := (s.buffers.getD index []).reverse.flatten

/-- Writes to a channel. -/
def write (s : State) (number : Nat) (bs : Bytes) : State :=
  if bs.isEmpty then s
  else match s.channels.lookup number with
    | some (.buffer k) =>
      { s with buffers := s.buffers.setIfInBounds k (bs :: s.buffers.getD k []) }
    | some (.file path) =>
      let names := (Path.segments path).filter (· ≠ "")
      let old := (s.files.read? path).getD ""
      { s with files := s.files.insert names (.file (old ++ bs.toText) 0o644) }
    | _ => s

/-- What stands before a message of the shell itself. -/
def speaker (s : State) : String :=
  match s.dialect with
  | .plain => s.name ++ ": " ++ Nat.repr s.line ++ ": "
  | .extended => s.name ++ ": line " ++ Nat.repr s.line ++ ": "

/-- Writes a message of the shell itself to standard error. -/
def complain (s : State) (message : String) : State :=
  s.write 2 (Bytes.ofText (s.speaker ++ message ++ "\n"))

def withStatus (s : State) (status : Nat) : State := { s with status }

/-- Leads a channel somewhere else. -/
def lead (s : State) (number : Nat) (sink : Sink) : State :=
  { s with channels := (number, sink) :: s.channels.filter (·.1 != number) }

/-- What remains of a shell inside another one when it has ended. -/
def keepEffects (outer inner : State) : State :=
  { outer with
    files := inner.files
    input := inner.input
    buffers := inner.buffers
    status := inner.status
    elapsedMs := inner.elapsedMs
    backgroundMs := inner.backgroundMs
    flow := match inner.flow with
      | .killed signal depth => .killed signal depth
      | _ => outer.flow }

/-- What a tool did, written and counted. -/
def take (s : State) (a : Answer) : State :=
  let s := (s.write 1 a.output).write 2 a.errors
  { s with status := a.status, input := a.rest, elapsedMs := s.elapsedMs + a.elapsedMs }

end State

end Shell

end HookRules
