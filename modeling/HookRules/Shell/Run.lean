/-
Running commands.

Words are expanded to arguments, and the first argument names what is run: a
command of the shell itself, a function or a program. A program may be a shell
again. The fuel bounds how deep commands and shells are inside each other; what
is deeper is taken to run for ever.
-/
import HookRules.Shell.Builtin
import HookRules.Shell.Fields
import HookRules.Shell.Integer
import HookRules.Shell.Reader
import HookRules.Shell.Standard

namespace HookRules

namespace Shell

namespace Run

open Step

/-- Where a command stands. -/
structure Place where
  /-- Whether nothing follows it, so that a program takes the place of the shell. -/
  isLast : Bool := false
  /-- Whether its status is looked at. -/
  isTested : Bool := false

/-- Commands whose status decides what runs next. -/
def tested : Place := { isTested := true }

/-- What a captured output stands for: its text without line ends at its end. -/
def outputText (bytes : Bytes) : String :=
  Bytes.toText ((bytes.reverse.dropWhile (· == 10)).reverse.filter (· != 0))

/-- A tilde at the start of a word, for the home directory. -/
def withHome (s : State) : Word → List Piece × Word
  | .plain text :: rest =>
    match text.toList, s.value? "HOME" with
    | ['~'], some home => if rest.isEmpty then ([.text home true], []) else ([], .plain text :: rest)
    | '~' :: '/' :: after, some home =>
      ([.text home true], .plain ("/" ++ String.ofList after) :: rest)
    | _, _ => ([], .plain text :: rest)
  | w => ([], w)

/-- The longest or shortest front of a text that a pattern accepts. -/
def acceptedFront (pattern : Field) (longest : Bool) (cs : List Char) : Nat :=
  let sizes := List.range (cs.length + 1)
  ((if longest then sizes.reverse else sizes).find? fun n => pattern.accepts (cs.take n)).getD 0

/-- A text without what a pattern accepts at one of its ends. -/
def cutText (pattern : Field) (atFront longest : Bool) (text : String) : String :=
  let cs := text.toList
  if atFront then String.ofList (cs.drop (acceptedFront pattern longest cs))
  else
    let sizes := List.range (cs.length + 1)
    let kept := (if longest then sizes else sizes.reverse).find? fun n =>
      pattern.accepts (cs.drop n)
    String.ofList (cs.take (kept.getD cs.length))

/-- The options in front of a shell's arguments, whether a text follows them, and
the other arguments. -/
def shellOptions : List Char → Bool → List String → List Char × Bool × List String
  | letters, hasText, [] => (letters, hasText, [])
  | letters, hasText, a :: rest =>
    match a.toList with
    | '-' :: '-' :: _ :: _ => shellOptions letters hasText rest
    | ['-', '-'] => (letters, hasText, rest)
    | '-' :: more =>
      if more.isEmpty then (letters, hasText, rest)
      else shellOptions (letters ++ more.filter (· != 'c')) (hasText || more.contains 'c') rest
    | _ => (letters, hasText, a :: rest)

/-- Assignments in front of a program's arguments, with names that are taken away. -/
structure Surroundings where
  isEmpty : Bool := false
  without : List String := []
  assigned : List (String × String) := []
  command : List String := []

/-- What a program is run in, as arguments say. -/
def surroundings : Surroundings → List String → Surroundings
  | e, [] => e
  | e, "-i" :: rest => surroundings { e with isEmpty := true } rest
  | e, "-u" :: name :: rest => surroundings { e with without := name :: e.without } rest
  | e, a :: rest =>
    match a.toList.span (· != '=') with
    | (name, _ :: value) =>
      surroundings { e with assigned := e.assigned ++ [(String.ofList name, String.ofList value)] } rest
    | _ => { e with command := a :: rest }

def Surroundings.apply (e : Surroundings) (s : State) : State :=
  let kept := if e.isEmpty then s.bindings.filter (!·.2.exported) else s.bindings
  let kept := kept.filter fun (name, _) => !e.without.contains name
  e.assigned.foldl (fun s (name, value) => (s.setVariable name value).exportVariable name)
    { s with bindings := kept }

/-- Lists of so many arguments at most. -/
def groups (size : Nat) : Nat → List String → List (List String)
  | 0, _ => []
  | _, [] => []
  | fuel + 1, args => args.take (max size 1) :: groups size fuel (args.drop (max size 1))

/-- The state of a shell that starts inside another one. -/
def inner (s : State) (dialect : Dialect) (isLast : Bool) (name : String) (args : List String)
    (letters : List Char) : State :=
  let visible : Table Variable := s.bindings.filter (·.2.exported)
  let started := { s with
    name, dialect, args
    bindings := visible
    functions := []
    depth := if isLast then s.depth else s.depth + 1
    options := letters
    traps := []
    locals := []
    loops := 0
    calls := 0
    line := 1 }
  (((started.setVariable "IFS" " \t\n").setVariable "PWD" s.directory).exportVariable "PWD").setVariable
    "PPID" (State.processAt (s.depth - 1))

/-- What remains of a shell that was started inside another one. A shell that a
signal has ended is reported. -/
def ended (outer : State) (isLast : Bool) (inner : State) : State :=
  let s := outer.keepEffects inner
  match inner.flow with
  | .killed signal depth =>
    if isLast ∨ depth ≤ outer.depth then s
    else
      let message := if signal = 9 then "Killed\n" else if signal = 15 then "Terminated\n" else ""
      ({ s with flow := outer.flow }.write 2 (Bytes.ofText message)).withStatus (128 + signal)
  | _ => s

/-- Says what names stand for. -/
def describe (isLong : Bool) (names : List String) : Step Unit := do
  endWith 0
  for name in names do
    let s ← get
    let search := (s.value? "PATH").getD Standard.searchPath
    let say (line : String) : Step Unit := modify (·.write 1 (Bytes.ofText (line ++ "\n")))
    let own := (Builtin.find? s name []).isSome
      || ["eval", "exec", ".", "command", "type"].contains name
    if own then say (if isLong then name ++ " is a shell builtin" else name)
    else if (s.functions.get? name).isSome then
      say (if isLong then name ++ " is a shell function" else name)
    else match Standard.find s.files s.directory search name with
      | .ok (path, _) => say (if isLong then name ++ " is " ++ path else path)
      | .error _ =>
        if isLong then say (name ++ ": not found")
        endWith 127

mutual

-- =============================================================== words

/-- The pieces of a word. -/
def pieces (fuel : Nat) (w : Word) : Step (List Piece) := do
  match fuel with
  | 0 => return []
  | fuel + 1 =>
    let (front, rest) := withHome (← get) w
    return front ++ (← rest.mapM (piece fuel)).flatten

/-- The pieces of a part. -/
def piece (fuel : Nat) (p : Part) : Step (List Piece) := do
  match fuel with
  | 0 => return []
  | fuel + 1 =>
    match p with
    | .plain s => return [.text s false]
    | .quoted s => return [.text s true]
    | .output body isQuoted =>
      let bytes ← captured (command fuel {} body)
      modify fun s => { s with outputStatus := some s.status }
      return [.ofValue isQuoted (outputText bytes)]
    | .integer expression isQuoted =>
      let text ← joined fuel expression
      let s ← get
      let look (name : String) : Int := ((s.value? name).bind Printing.integer?).getD 0
      match Integer.evaluate look text with
      | .ok (n, target) =>
        if let some name := target then modify (·.setVariable name (toString n))
        return [.ofValue isQuoted (toString n)]
      | .error fault =>
        abort ("arithmetic expression: " ++ fault.message ++ ": \"" ++ text ++ "\"")
        return []
    | .variable name change isQuoted =>
      let s ← get
      let value := s.look? name
      match change with
      | none =>
        match name, value with
        | "@", _ => return Piece.ofArgs isQuoted s.args
        | "*", _ =>
          if isQuoted then
            let between := String.ofList (s.separators.take 1)
            return [.text (between.intercalate s.args) true]
          return Piece.ofArgs false s.args
        | _, some v => return [.ofValue isQuoted v]
        | _, none =>
          if s.hasOption 'u' then abort (name ++ ": parameter not set")
          return [.ofValue isQuoted ""]
      | some (kind, word) =>
        let isThere (coversEmpty : Bool) : Bool := value.any fun v => !(coversEmpty && v == "")
        let values : List Piece := match name with
          | "@" => Piece.ofArgs isQuoted s.args
          | _ => [.ofValue isQuoted (value.getD "")]
        match kind with
        | .length => return [.ofValue isQuoted (Nat.repr (value.getD "").length)]
        | .orElse coversEmpty =>
          if isThere coversEmpty then return values
          return (← pieces fuel word).map Piece.loosen
        | .orSet coversEmpty =>
          if isThere coversEmpty then return values
          let text ← joined fuel word
          modify (·.setVariable name text)
          return [.ofValue isQuoted text]
        | .ifSet coversEmpty =>
          if isThere coversEmpty then return (← pieces fuel word).map Piece.loosen
          return [.ofValue isQuoted ""]
        | .demand coversEmpty =>
          if isThere coversEmpty then return values
          let text ← joined fuel word
          abort (name ++ ": " ++ (if text ≠ "" then text
            else if coversEmpty then "parameter not set or null" else "parameter not set"))
          return []
        | .cut atFront longest =>
          let pattern := (← pieces fuel word).flatMap Piece.field
          return [.ofValue isQuoted (cutText pattern atFront longest (value.getD ""))]

/-- The text of a word that is not split. -/
def joined (fuel : Nat) (w : Word) : Step String := do
  match fuel with
  | 0 => return ""
  | fuel + 1 => return Field.text ((← pieces fuel w).flatMap Piece.field)

/-- The arguments that words stand for. -/
def expanded (fuel : Nat) (ws : List Word) : Step (List String) := do
  match fuel with
  | 0 => return []
  | fuel + 1 =>
    let lists ← ws.mapM fun w => do
      let ps ← pieces fuel w
      let s ← get
      let fields := Field.ofPieces s.separators ps
      if s.hasOption 'f' then return fields.map Field.text
      return fields.flatMap (Field.expanded s.files s.directory)
    return lists.flatten

/-- Sets the variables of assignments, which programs see if `exported`. -/
def assign (fuel : Nat) (exported : Bool) (assignments : List (String × Word)) : Step Unit := do
  match fuel with
  | 0 => neverEnds
  | fuel + 1 =>
    for (name, word) in assignments do
      let value ← joined fuel word
      if ((← get).bindings.get? name).any (·.fixed) then return ← abort (name ++ ": is read only")
      modify fun s =>
        let s := s.setVariable name value
        if exported then s.exportVariable name else s

-- ============================================================ commands

/-- Runs a command. -/
def command (fuel : Nat) (place : Place) (c : Command) : Step Unit := do
  match fuel with
  | 0 => neverEnds
  | fuel + 1 =>
    if !(← goesOn) then return
    match c with
    | .nothing => return
    | .simple line assignments words =>
      simple fuel place line assignments words
      checkFailure place.isTested
    | .redirected body redirects =>
      redirected fuel place body redirects
      checkFailure place.isTested
    | .pipe left right =>
      piped (command fuel {} left) (command fuel {} right)
      checkFailure place.isTested
    | .negated body =>
      command fuel tested body
      if ← goesOn then modify fun s => s.withStatus (if s.status = 0 then 1 else 0)
    | .sequence first second =>
      command fuel { place with isLast := false } first
      command fuel place second
    | .both first second =>
      command fuel tested first
      if (← get).status = 0 then command fuel place second
    | .either first second =>
      command fuel tested first
      if (← get).status ≠ 0 then command fuel place second
    | .background body => behind (command fuel {} body)
    | .conditional test yes no =>
      command fuel tested test
      if ← goesOn then
        if (← get).status = 0 then command fuel place yes
        else
          endWith 0
          command fuel place no
    | .loop goal test body =>
      inLoop (repeatWhile goal (command fuel tested test)
        (command fuel { place with isLast := false } body) maxRounds 0)
    | .each name words body =>
      let args ← match words with
        | none => pure (← get).args
        | some ws => expanded fuel ws
      endWith 0
      inLoop (forEach name (command fuel { place with isLast := false } body) args)
    | .choice word branches =>
      let text ← joined fuel word
      endWith 0
      choice fuel place text.toList branches
    | .subshell body =>
      apart (command fuel { place with isLast := false } body)
      checkFailure place.isTested
    | .define name body =>
      modify fun s => { s with functions := s.functions.set name body, status := 0 }

/-- Runs the first branch with a pattern that accepts a text. -/
def choice (fuel : Nat) (place : Place) (text : List Char)
    (branches : List (List Word × Command)) : Step Unit := do
  match fuel with
  | 0 => neverEnds
  | fuel + 1 =>
    match branches with
    | [] => return
    | (patterns, body) :: rest =>
      let fits ← patterns.anyM fun w => do
        return Field.accepts ((← pieces fuel w).flatMap Piece.field) text
      if fits then command fuel place body else choice fuel place text rest

/-- Opens what a redirection names. The answer is whether that can be done. -/
def redirect (fuel : Nat) (r : Redirect) : Step Bool := do
  match fuel with
  | 0 => return false
  | fuel + 1 =>
    match r with
    | .to number channel word =>
      let text ← joined fuel word
      if !(← goesOn) then return false
      match channel with
      | .output => openOutput number false text
      | .appended => openOutput number true text
      | .input => openInput text
      | .copy => copyChannel number text
      | .text =>
        modify fun s => { s with input := Bytes.ofText text }
        return true

/-- Runs a command with its channels led elsewhere. -/
def redirected (fuel : Nat) (place : Place) (body : Command) (redirects : List Redirect) :
    Step Unit := do
  match fuel with
  | 0 => neverEnds
  | fuel + 1 =>
    let before ← get
    let (keeps, line) := match body with
      | .simple line _ [[.plain "exec"]] => (true, some line)
      | .simple line _ _ => (false, some line)
      | _ => (false, none)
    if let some line := line then modify fun s => { s with line := s.lineEnds - line + 1 }
    let opened ← redirects.allM (redirect fuel)
    if opened then command fuel place body
    else if keeps then modify fun s => { s with flow := .exits }
    if keeps then return
    let changesInput := redirects.any fun
      | .to number _ _ => number == 0
    modify fun s =>
      { s with
        channels := before.channels
        input := if changesInput then before.input else s.input }

/-- Runs a command of words. -/
def simple (fuel : Nat) (place : Place) (line : Nat) (assignments : List (String × Word))
    (words : List Word) : Step Unit := do
  match fuel with
  | 0 => neverEnds
  | fuel + 1 =>
    modify fun s => { s with line := s.lineEnds - line + 1, outputStatus := none }
    let args ← expanded fuel words
    if !(← goesOn) then return
    match args with
    | [] =>
      assign fuel false assignments
      if ← goesOn then modify fun s => s.withStatus (s.outputStatus.getD 0)
    | name :: rest =>
      let before ← get
      assign fuel true assignments
      if !(← goesOn) then return
      if before.hasOption 'x' then
        modify (·.write 2 (Bytes.ofText ("+ " ++ " ".intercalate (name :: rest) ++ "\n")))
      named fuel place name rest
      for action in (← get).pending do
        modify fun s => { s with pending := [] }
        evaluate fuel {} action
      if !Builtin.special.contains name then
        modify fun s => assignments.foldl
          (fun s (name, _) => s.restoreVariable name (before.bindings.get? name)) s

/-- Runs what a name stands for. -/
def named (fuel : Nat) (place : Place) (name : String) (args : List String) : Step Unit := do
  match fuel with
  | 0 => neverEnds
  | fuel + 1 =>
    let s ← get
    match if Builtin.special.contains name then none else s.functions.get? name with
    | some body => call fuel place body args
    | none =>
      match Builtin.find? s name args with
      | some act => act
      | none =>
        match name, args with
        | "eval", _ => evaluate fuel place (" ".intercalate args)
        | "exec", [] => endWith 0
        | "exec", name :: args =>
          program fuel "exec: " { isLast := true } name args
          modify fun s => if s.flow == .onward then { s with flow := .exits } else s
        | ".", path :: _ => source fuel place path
        | "source", path :: args =>
          if s.dialect = .extended then source fuel place path
          else program fuel "" place name (path :: args)
        | "command", "-v" :: names => describe false names
        | "command", name :: args =>
          match Builtin.find? s name args with
          | some act => act
          | none => program fuel "" place name args
        | "command", [] => endWith 0
        | "type", names => describe true names
        | _, _ => program fuel "" place name args

/-- Runs a function. -/
def call (fuel : Nat) (place : Place) (body : Command) (args : List String) : Step Unit := do
  match fuel with
  | 0 => neverEnds
  | fuel + 1 =>
    let before ← get
    set { before with args, locals := [], loops := 0, calls := before.calls + 1 }
    command fuel { place with isLast := false } body
    modify fun s =>
      let s := s.locals.foldl (fun s (name, old) => s.restoreVariable name old) s
      { s with
        args := before.args
        locals := before.locals
        loops := before.loops
        calls := before.calls
        flow := if s.flow == .returns then .onward else s.flow }

-- =============================================================== texts

/-- Runs the lines of a text. -/
def lines (fuel : Nat) (place : Place) (cs : List Char) : Step Unit := do
  match fuel with
  | 0 => neverEnds
  | fuel + 1 =>
    match nextLine? cs with
    | none => return
    | some (.error fault) =>
      modify fun s =>
        let left := (dropLines cs.length cs).count '\n'
        { s with line := s.lineEnds + 1 - (if fault.isAtEnd then 0 else left) }
      abort fault.message
    | some (.ok (c, rest)) =>
      let isLast := place.isLast && (← get).dialect == .extended && (nextLine? rest).isNone
      command fuel { place with isLast } c
      if ← goesOn then lines fuel place rest

/-- Runs a text in the shell that runs already. -/
def evaluate (fuel : Nat) (place : Place) (text : String) : Step Unit := do
  match fuel with
  | 0 => neverEnds
  | fuel + 1 =>
    let outer := (← get).lineEnds
    modify fun s => { s with lineEnds := text.toList.count '\n', status := 0 }
    lines fuel { place with isLast := false } text.toList
    modify fun s => { s with lineEnds := outer }

/-- Runs the text of a file in the shell that runs already. -/
def source (fuel : Nat) (place : Place) (path : String) : Step Unit := do
  match fuel with
  | 0 => neverEnds
  | fuel + 1 =>
    let s ← get
    match s.files.read? (Path.join s.directory path) with
    | some text =>
      evaluate fuel place text
      modify fun s => if s.flow == .returns then { s with flow := .onward } else s
    | none => abort (".: cannot open " ++ path ++ ": No such file")

/-- Runs a text as all that a shell does, and what it does at its end. -/
def whole (fuel : Nat) (isLast : Bool) (text : String) : Step Unit := do
  match fuel with
  | 0 => neverEnds
  | fuel + 1 =>
    modify fun s => { s with lineEnds := text.toList.count '\n', status := 0 }
    lines fuel { isLast } text.toList
    let s ← get
    match s.traps.lookup 0, s.flow with
    | _, .killed _ _ => return
    | none, _ => return
    | some action, _ =>
      set { s with traps := [], flow := .onward }
      evaluate fuel {} action
      modify fun t => if t.flow == .onward then t.withStatus s.status else t

-- ============================================================ programs

/-- Runs a program by its name. A message says who wanted that. -/
def program (fuel : Nat) (caller : String) (place : Place) (name : String) (args : List String) :
    Step Unit := do
  match fuel with
  | 0 => neverEnds
  | fuel + 1 =>
    let s ← get
    let search := (s.value? "PATH").getD Standard.searchPath
    let refuse (status : Nat) (reason : String) : Step Unit :=
      complain status (caller ++ name ++ ": " ++ reason)
    match Standard.find s.files s.directory search name with
    | .ok (path, p) => started fuel place name path args p
    | .error .notPermitted => refuse 126 "Permission denied"
    | .error _ =>
      if name = "" then refuse 127 "Permission denied"
      else if s.dialect = .plain then refuse 127 "not found"
      else if name.toList.contains '/' then refuse 127 "No such file or directory"
      else refuse 127 "command not found"

/-- Runs a program that has been found. -/
def started (fuel : Nat) (place : Place) (name path : String) (args : List String)
    (p : Standard.Program) : Step Unit := do
  match fuel with
  | 0 => neverEnds
  | fuel + 1 =>
    match p with
    | .standard tool => standard fuel place tool name args
    | .unknown text => shell fuel place .plain name [] args text
    | .interpreted line =>
      match Standard.interpreter? line with
      | none => complain 127 (name ++ ": not found")
      | some (interpreter, more) =>
        let s ← get
        match Standard.find s.files s.directory "" interpreter with
        | .ok (_, q) =>
          started fuel place interpreter interpreter (more ++ path :: args) q
        | .error .notPermitted => complain 126 (name ++ ": Permission denied")
        | .error _ => complain 127 (name ++ ": not found")

/-- Runs a standard program. -/
def standard (fuel : Nat) (place : Place) (tool name : String) (args : List String) :
    Step Unit := do
  match fuel with
  | 0 => neverEnds
  | fuel + 1 =>
    match tool with
    | "sh" | "dash" => asShell fuel place .plain name args
    | "bash" => asShell fuel place .extended name args
    | "env" =>
      let e := surroundings {} args
      let before ← get
      modify e.apply
      match e.command with
      | [] => Builtin.tool Standard.printenv []
      | name :: args => program fuel "" place name args
      modify fun s => { s with bindings := before.bindings }
    | "nohup" =>
      match args with
      | name :: args => program fuel "" place name args
      | [] => endWith 125
    | "timeout" =>
      match args with
      | limit :: name :: args =>
        let start := (← get).elapsedMs
        program fuel "" { place with isLast := false } name args
        let most := start + ((Filter.milliseconds? limit).getD 0)
        modify fun s =>
          if most < s.elapsedMs ∧ start < most then { s with elapsedMs := most, status := 124 } else s
      | _ => endWith 125
    | "xargs" =>
      let (os, rest) := options (fun c => c == 'n' || c == 'I') args
      let s ← get
      let items := ((Bytes.toText s.input).split Char.isWhitespace).toList.map (·.toString)
      let items := items.filter (· ≠ "")
      set { s with input := [], status := 0 }
      let size := ((optionValue? os 'n').bind String.toNat?).getD (items.length + 1)
      let runs := if items.isEmpty && !Shell.hasOption os 'r' then [[]]
        else groups size items.length items
      let (tool, own) := match rest with
        | [] => ("echo", [])
        | tool :: own => (tool, own)
      match optionValue? os 'I' with
      | some mark =>
        for line in s.input.lines do
          program fuel "" {} tool (own.map (·.replace mark (Bytes.toText line)))
      | none => for more in runs do program fuel "" {} tool (own ++ more)
    | _ =>
      match Standard.tools.lookup tool with
      | some t => Builtin.tool t args
      | none => complain 127 (name ++ ": not found")

/-- Runs a shell with arguments: a text, a file, or what it reads. -/
def asShell (fuel : Nat) (place : Place) (dialect : Dialect) (name : String)
    (args : List String) : Step Unit := do
  match fuel with
  | 0 => neverEnds
  | fuel + 1 =>
    let (letters, hasText, rest) := shellOptions [] false args
    let s ← get
    match hasText, rest with
    | true, [] =>
      modify fun s => s.write 2 (Bytes.ofText (name ++ ": 0: -c requires an argument\n"))
      endWith 2
    | true, [text] => shell fuel place dialect name letters [] text
    | true, text :: own :: args => shell fuel place dialect own letters args text
    | false, path :: args =>
      match s.files.find? (Path.join s.directory path) with
      | some (.file text _) => shell fuel place dialect path letters args text
      | _ =>
        modify fun s => s.write 2 (Bytes.ofText (
          if dialect = .plain then name ++ ": 0: cannot open " ++ path ++ ": No such file\n"
          else name ++ ": " ++ path ++ ": No such file or directory\n"))
        endWith (if dialect = .plain then 2 else 127)
    | false, [] =>
      set { s with input := [] }
      shell fuel place dialect name letters [] (Bytes.toText s.input)

/-- Runs a text in a new shell. -/
def shell (fuel : Nat) (place : Place) (dialect : Dialect) (name : String)
    (letters : List Char) (args : List String) (text : String) : Step Unit := do
  match fuel with
  | 0 => neverEnds
  | fuel + 1 =>
    let outer ← get
    let after := ((whole fuel true text).run (inner outer dialect place.isLast name args letters)).2
    set (ended outer place.isLast after)

end

end Run

end Shell

end HookRules
