/-
Steps of a shell and how they are put together.

A step changes the state of the shell. Steps run apart from the shell leave only
what they wrote and how they ended; their output can be caught, or read by other
steps; loops repeat them.
-/
import HookRules.Shell.State

namespace HookRules

namespace Shell

/-- What a shell does. -/
abbrev Step := StateM State

namespace Step

def endWith (status : Nat) : Step Unit := modify (·.withStatus status)

/-- Says something and goes on with a status. -/
def complain (status : Nat) (message : String) : Step Unit :=
  modify fun s => (s.complain message).withStatus status

/-- Says something and ends the shell. -/
def abort (message : String) : Step Unit :=
  modify fun s => { (s.complain message).withStatus 2 with flow := .exits }

/-- Whether the next command is to run. -/
def goesOn : Step Bool := do return (← get).flow == .onward

/-- A time that no limit allows. -/
def foreverMs : Nat := 1000000000

/-- What is not seen to end lasts for ever. -/
def neverEnds : Step Unit :=
  modify fun s => { s with elapsedMs := s.elapsedMs + foreverMs, flow := .exits }

/-- Ends the shell after a failure that nobody looked at, if the shell is set so. -/
def checkFailure (isTested : Bool) : Step Unit :=
  modify fun s =>
    if s.hasOption 'e' && !isTested && s.status != 0 && s.flow == .onward then
      { s with flow := .exits }
    else s

-- ======================================================== other shells

/-- Runs steps in a shell of their own. -/
def apart (act : Step Unit) : Step Unit := do
  let outer ← get
  let inner := (act.run { outer with traps := [], locals := [], loops := 0 }).2
  set (outer.keepEffects inner)

/-- What steps in a shell of their own write to standard output. -/
def captured (act : Step Unit) : Step Bytes := do
  let k := (← get).buffers.size
  modify fun s => { s with buffers := s.buffers.push [] }
  apart do
    modify (·.lead 1 (.buffer k))
    act
  let bytes := (← get).written k
  modify fun s => { s with buffers := s.buffers.pop }
  return bytes

/-- Runs steps that read what other steps write, both at the same time. -/
def piped (left right : Step Unit) : Step Unit := do
  let start := (← get).elapsedMs
  let bytes ← captured left
  let middle ← get
  set { middle with input := bytes, elapsedMs := start }
  apart right
  modify fun s =>
    { s with input := middle.input, elapsedMs := max s.elapsedMs middle.elapsedMs }

/-- Runs steps in the background. -/
def behind (act : Step Unit) : Step Unit := do
  let outer ← get
  let inner := (act.run { outer with input := [], traps := [] }).2
  set { outer.keepEffects inner with
    input := outer.input
    status := 0
    elapsedMs := outer.elapsedMs
    backgroundMs := max inner.elapsedMs inner.backgroundMs }

-- =============================================================== loops

/-- Whether a loop goes on after its body. -/
def settle : Step Bool := do
  let s ← get
  match s.flow with
  | .onward => return true
  | .breaks loops again =>
    if 1 < loops then
      set { s with flow := .breaks (loops - 1) again }
      return false
    set { s with flow := .onward }
    return again
  | _ => return false

/-- Counts the loops around some steps. -/
def inLoop (act : Step Unit) : Step Unit := do
  modify fun s => { s with loops := s.loops + 1 }
  act
  modify fun s => { s with loops := s.loops - 1 }

/-- The greatest number of rounds of one loop. -/
def maxRounds : Nat := 20000

/-- Repeats the body while the test answers `goal`, for so many rounds. The status
is that of the last body. -/
def repeatWhile (goal : Bool) (test body : Step Unit) : Nat → Nat → Step Unit
  | 0, _ => neverEnds
  | rounds + 1, last => do
    test
    let s ← get
    if s.flow != .onward then
      if ← settle then repeatWhile goal test body rounds last
    else if (s.status == 0) == goal then
      body
      let last := (← get).status
      if ← settle then repeatWhile goal test body rounds last
    else set (s.withStatus last)

/-- Runs the body with a variable set to each value. -/
def forEach (name : String) (body : Step Unit) : List String → Step Unit
  | [] => return
  | value :: rest => do
    modify (·.setVariable name value)
    body
    if ← settle then forEach name body rest

-- ============================================================ channels

/-- Leads a channel to a file, whose content is kept only if more is appended to
it. The answer is whether that can be done. -/
def openOutput (number : Nat) (appended : Bool) (name : String) : Step Bool := do
  let s ← get
  let refuse (reason : String) : Step Bool := do
    complain 2 ("cannot create " ++ name ++ ": " ++ reason)
    return false
  let copy (of : Nat) : Step Bool := do
    set (s.lead number ((s.channels.lookup of).getD .nowhere))
    return true
  match name with
  | "/dev/null" =>
    set (s.lead number .nowhere)
    return true
  | "/dev/stdout" => copy 1
  | "/dev/stderr" => copy 2
  | _ =>
    let path := Path.join s.directory name
    let (parent, last) := match (Path.segments path).reverse with
      | last :: above => ("/".intercalate above.reverse, last)
      | [] => ("/", "")
    if name = "" then refuse "Directory nonexistent"
    else if s.files.isDir path then refuse "Is a directory"
    else match s.files.locate? (if parent = "" then "/" else parent) with
      | none => refuse "Directory nonexistent"
      | some names =>
        let place := (s.files.locate? path).getD (names ++ [last])
        let path := "/" ++ "/".intercalate place
        let isKept := appended && s.files.exists? path
        let files := if isKept then s.files else s.files.insert place (.file "" 0o644)
        set ({ s with files }.lead number (.file path))
        return true

/-- Takes the content of a file as input. The answer is whether that can be done. -/
def openInput (name : String) : Step Bool := do
  let s ← get
  match name with
  | "/dev/null" =>
    set { s with input := [] }
    return true
  | "/dev/stdin" => return true
  | _ =>
    match s.files.find? (Path.join s.directory name) with
    | some (.file content _) =>
      set { s with input := Bytes.ofText content }
      return true
    | some _ =>
      set { s with input := [] }
      return true
    | none =>
      complain 2 ("cannot open " ++ name ++ ": No such file")
      return false

/-- Leads a channel to the place of another one, or nowhere. -/
def copyChannel (number : Nat) (name : String) : Step Bool := do
  let s ← get
  if name = "-" then
    set (s.lead number .nowhere)
    return true
  match name.toNat? with
  | some 0 => return true
  | some n =>
    match s.channels.lookup n with
    | some sink =>
      set (s.lead number sink)
      return true
    | none =>
      complain 2 (name ++ ": Bad file descriptor")
      return false
  | none =>
    complain 2 "Syntax error: Bad fd number"
    return false

end Step

end Shell

end HookRules
