/-
Commands that the shell itself knows, those that run other text excepted.
-/
import HookRules.Automation.Fault
import HookRules.Shell.Printing
import HookRules.Shell.Step
import HookRules.Shell.Test

namespace HookRules

namespace Shell

namespace Builtin

open Step

/-- Runs a tool with what the shell sees. -/
def tool (t : Tool) (args : List String) : Step Unit :=
  modify fun s =>
    s.take (t {
      args
      input := s.input
      env := s.environment
      directory := s.directory
      files := s.files })

/-- Sets variables as `name=value` says, or leaves their values. -/
def declare (change : String → State → State) (args : List String) : Step Unit := do
  for a in args do
    match a.toList.span (· != '=') with
    | (name, _ :: value) =>
      modify fun s => change (String.ofList name)
        (s.setVariable (String.ofList name) (String.ofList value))
    | (name, []) => modify (change (String.ofList name))
  endWith 0

-- =========================================================== directory

def cd (args : List String) : Step Unit := do
  let s ← get
  let target := match args.filter (fun a => a ≠ "-P" ∧ a ≠ "-L" ∧ a ≠ "--") with
    | [] => (s.value? "HOME").getD ""
    | "-" :: _ => (s.value? "OLDPWD").getD s.directory
    | name :: _ => name
  let path := Path.textOf (Path.normalize (Path.components (Path.join s.directory target)))
  if s.files.isDir path then
    if args.head? = some "-" then modify (·.write 1 (Bytes.ofText (path ++ "\n")))
    modify fun t =>
      ((({ t with directory := path }.setVariable "OLDPWD" s.directory).setVariable "PWD" path).withStatus 0)
  else complain 2 ("cd: can't cd to " ++ target)

-- ================================================================ flow

/-- Leaves the shell or a function with a status that may be given. -/
def leave (name : String) (flow : Flow) (args : List String) : Step Unit := do
  match args with
  | [] => modify fun s => { s with flow }
  | a :: _ =>
    match a.toNat? with
    | some n => modify fun s => { s with flow, status := n % 256 }
    | none => abort (name ++ ": Illegal number: " ++ a)

/-- Leaves loops, if there are any around it. -/
def leaveLoops (name : String) (again : Bool) (args : List String) : Step Unit := do
  let s ← get
  match (args.head?.getD "1").toNat? with
  | some (n + 1) =>
    if s.loops = 0 then endWith 0
    else set { s with status := 0, flow := .breaks (min (n + 1) s.loops) again }
  | _ => abort (name ++ ": Illegal number: " ++ args.head?.getD "")

/-- The number of a signal by its number or its name. -/
def signal? (name : String) : Option Nat :=
  match name.toNat? with
  | some n => some n
  | none =>
    let full := if name.startsWith "SIG" then name else "SIG" ++ name
    if full = "SIGEXIT" then some 0
    else (List.range 32).find? fun n => 0 < n && ExitStatus.signalName n = full

/-- Signals that nothing comes of. -/
def isHarmless (n : Nat) : Bool := [0, 17, 18, 23, 28].contains n

/-- A shell receives a signal: it does what it was told to do then, or it ends. -/
def receive (n depth : Nat) : Step Unit := do
  let s ← get
  match if depth = s.depth ∧ n ≠ 9 then s.traps.lookup n else none with
  | some "" => endWith 0
  | some action => set { s with status := 0, pending := s.pending ++ [action] }
  | none =>
    if isHarmless n then endWith 0
    else set { s with status := 0, flow := .killed n depth }

/-- Sends a signal to a shell. -/
def kill (args : List String) : Step Unit := do
  let s ← get
  let (name, targets) := match args with
    | "-s" :: name :: rest => (name, rest)
    | a :: rest =>
      match a.toList with
      | '-' :: name => (String.ofList name, rest)
      | _ => ("TERM", args)
    | [] => ("TERM", [])
  match signal? name, targets with
  | none, _ => complain 2 ("kill: Illegal option -" ++ String.ofList (name.toList.take 1))
  | some _, [] =>
    complain 2
      "kill: Usage: kill [-s sigspec | -signum | -sigspec] [pid | job]... or\nkill -l [exitstatus]"
  | some n, target :: _ =>
    match (List.range (s.depth + 1)).find? fun depth => State.processAt depth = target with
    | some depth => receive n depth
    | none => complain 1 "kill: No such process\n"

-- =========================================================== variables

/-- The letter of an option by its name. -/
def optionLetter? : String → Option Char
  | "errexit" => some 'e'
  | "nounset" => some 'u'
  | "xtrace" => some 'x'
  | "noglob" => some 'f'
  | _ => none

/-- Sets options, or takes them back. -/
def change (isOn : Bool) (letters : List Char) : Step Unit :=
  modify fun s =>
    let others := s.options.filter fun c => !letters.contains c
    { s with options := if isOn then letters ++ others else others }

/-- Sets an option by its name, or takes it back. -/
def changeNamed (isOn : Bool) (name : String) : Step Unit := do
  match optionLetter? name with
  | some c => change isOn [c]
  | none => if (← get).dialect = .plain then abort ("set: Illegal option -o " ++ name)

/-- Whether an argument holds options, whether it sets them, and their letters. -/
def optionArgument? (a : String) : Option (Bool × List Char) :=
  match a.toList with
  | '-' :: letters => if letters.isEmpty || letters = ['-'] then none else some (true, letters)
  | '+' :: letters => if letters.isEmpty then none else some (false, letters)
  | _ => none

/-- Sets options up to the first argument that is none; the arguments from there
on become those of the shell. -/
def setOptions : List String → Step Unit
  | [] => endWith 0
  | a :: rest =>
    match optionArgument? a with
    | none =>
      modify fun s => { s with args := if a = "--" then rest else a :: rest, status := 0 }
    | some (isOn, letters) => do
      change isOn (letters.filter (· != 'o'))
      if letters.contains 'o' then setNamed isOn rest else setOptions rest
where
  /-- Sets an option whose name is the next argument. -/
  setNamed (isOn : Bool) : List String → Step Unit
    | [] => endWith 0
    | name :: rest => do
      changeNamed isOn name
      if ← goesOn then setOptions rest

def shift (args : List String) : Step Unit := do
  let n := ((args.head?.getD "1").toNat?).getD 1
  let s ← get
  if s.args.length < n then abort "shift: can't shift that many"
  else set { s with args := s.args.drop n, status := 0 }

/-- The first line of some bytes, what follows it, and whether it has an end. A
backslash, unless it is kept, joins lines and is taken away. -/
def readLine (isRaw : Bool) : List Char → List Char → List Char × List Char × Bool
  | line, [] => (line.reverse, [], false)
  | line, '\n' :: rest => (line.reverse, rest, true)
  | line, '\\' :: '\n' :: rest =>
    if isRaw then ((('\\' :: line)).reverse, rest, true) else readLine isRaw line rest
  | line, '\\' :: c :: rest =>
    if isRaw then readLine isRaw (c :: '\\' :: line) rest else readLine isRaw (c :: line) rest
  | line, c :: rest => readLine isRaw (c :: line) rest

/-- The values of so many variables: fields, the last one with everything that is
left. -/
def readFields (separators : List Char) : Nat → List Char → List String
  | 0, _ => []
  | 1, cs =>
    let isBlank (c : Char) : Bool := separators.contains c && Char.isWhitespace c
    [String.ofList ((cs.dropWhile isBlank).reverse.dropWhile isBlank).reverse]
  | n + 2, cs =>
    let isBlank (c : Char) : Bool := separators.contains c && Char.isWhitespace c
    let (field, rest) := (cs.dropWhile isBlank).span fun c => !separators.contains c
    String.ofList field :: readFields separators (n + 1) (rest.drop 1)

/-- Reads a line of input into variables. -/
def read (args : List String) : Step Unit := do
  let (os, names) := options (fun c => c == 'p') args
  let s ← get
  let (line, rest, ended) := readLine (Shell.hasOption os 'r') [] (Text.decode s.input)
  let values := readFields s.separators names.length line
  set { s with input := Bytes.ofText (String.ofList rest) }
  for (name, value) in names.zip values do
    modify (·.setVariable name value)
  endWith (if ended then 0 else 1)

/-- Makes variables the function's own. -/
def makeLocal (args : List String) : Step Unit := do
  if (← get).calls = 0 then return ← abort "local: not in a function"
  for a in args do
    let name := String.ofList (a.toList.takeWhile (· != '='))
    modify fun s => { s with locals := (name, s.bindings.get? name) :: s.locals }
  declare (fun _ s => s) (args.filter fun a => a.toList.contains '=')

/-- Says what is done when signals arrive, or when the shell ends. -/
def trap (args : List String) : Step Unit := do
  match args with
  | action :: signals =>
    for name in signals do
      match signal? name with
      | some n =>
        modify fun s =>
          let others := s.traps.filter (·.1 != n)
          { s with traps := if action = "-" then others else (n, action) :: others }
      | none => complain 1 ("trap: " ++ name ++ ": bad trap")
    endWith 0
  | [] => endWith 0

/-- A condition in double brackets. -/
def condition (args : List String) : Step Unit := do
  let s ← get
  let call : Call := { args, directory := s.directory, files := s.files }
  let args := (args.filter (· ≠ "]]")).map fun a => if a = "==" then "=" else a
  match Test.decide call args with
  | .ok b => endWith (if b then 0 else 1)
  | .error e => complain 2 e

-- =============================================================== names

/-- Commands that no function replaces. -/
def special : List String :=
  [":", ".", "break", "continue", "eval", "exec", "exit", "export", "readonly", "return", "set",
   "shift", "times", "trap", "unset"]

/-- What the shell does for a name, if it is one of its own. -/
def find? (s : State) (name : String) (args : List String) : Option (Step Unit) :=
  let isPlain := s.dialect = .plain
  match name with
  | ":" | "true" => some (endWith 0)
  | "false" => some (endWith 1)
  | "echo" => some (tool (if isPlain then Printing.echoBuiltin else Printing.echo) args)
  | "printf" => some (tool (Printing.printf s.speaker (!isPlain)) args)
  | "test" | "[" => some (tool (Test.tool (!isPlain) s.speaker name) args)
  | "[[" => if isPlain then none else some (condition args)
  | "pwd" => some (tool (fun c => { Answer.ofText (c.directory ++ "\n") with rest := c.input }) [])
  | "cd" => some (cd args)
  | "exit" => some (leave name .exits args)
  | "return" => some (leave name .returns args)
  | "break" => some (leaveLoops name false args)
  | "continue" => some (leaveLoops name true args)
  | "kill" => some (kill args)
  | "export" => some (declare (fun name s => s.exportVariable name) (args.filter (· ≠ "-p")))
  | "readonly" => some (declare (fun name s => s.fixVariable name) args)
  | "unset" => some do
      modify fun s => args.foldl
        (fun s name =>
          let functions := if args.contains "-f" then s.functions.filter (·.1 != name) else s.functions
          { (if args.contains "-f" then s else s.unsetVariable name) with functions }) s
      endWith 0
  | "set" => some (setOptions args)
  | "shift" => some (shift args)
  | "read" => some (read args)
  | "local" => some (makeLocal args)
  | "trap" => some (trap args)
  | "wait" => some (modify fun s => { s with elapsedMs := max s.elapsedMs s.backgroundMs, status := 0 })
  | "umask" => some (tool (fun c => { Answer.ofText (if args.isEmpty then "0022\n" else "") with rest := c.input }) [])
  | "times" | "hash" | "alias" | "unalias" | "ulimit" | "jobs" => some (endWith 0)
  | _ => none

end Builtin

end Shell

end HookRules
