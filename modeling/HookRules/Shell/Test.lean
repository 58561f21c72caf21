/-
Conditions of the shell: the tool that is written `test` or in brackets.
-/
import HookRules.Shell.Printing

namespace HookRules

namespace Shell

namespace Test

/-- The value of a condition, or what is wrong with it. -/
abbrev Result := Except String Bool

def number (s : String) : Except String Int :=
  match Printing.integer? s with
  | some n => if s = "" then .error ("Illegal number: " ++ s) else .ok n
  | none => .error ("Illegal number: " ++ s)

/-- A condition on one value, if the sign is one. -/
def unary? (c : Call) (sign value : String) : Option Bool :=
  let node := c.files.find? (c.path value)
  let mode := match node with
    | some (.file _ mode) => mode
    | some (.dir _ _) => 0o755
    | _ => 0
  match sign with
  | "-n" => some (value ≠ "")
  | "-z" => some (value = "")
  | "-e" => some (value ≠ "" && node.isSome)
  | "-f" => some (match node with
    | some (.file _ _) => true
    | _ => false)
  | "-d" => some (value ≠ "" && c.files.isDir (c.path value))
  | "-x" => some (node.isSome && mode &&& 0o111 != 0)
  | "-r" | "-w" => some (value ≠ "" && node.isSome)
  | "-s" => some (match node with
    | some (.file content _) => content ≠ ""
    | some (.dir _ _) => true
    | _ => false)
  | "-t" => some false
  | "-L" | "-h" =>
    let place := c.files.locate? (c.path value)
    some (place.isSome && c.path value != "/" ++ "/".intercalate (place.getD []))
  | _ => none

/-- A condition on two values, if the sign is one. -/
def binary? (sign left right : String) : Option Result :=
  let ordered (accept : Ordering → Bool) : Option Result :=
    some (do return accept (compare (← number left) (← number right)))
  match sign with
  | "=" => some (.ok (left = right))
  | "!=" => some (.ok (left ≠ right))
  | "<" => some (.ok (left < right))
  | ">" => some (.ok (right < left))
  | "-eq" => ordered (· == .eq)
  | "-ne" => ordered (· != .eq)
  | "-lt" => ordered (· == .lt)
  | "-le" => ordered (· != .gt)
  | "-gt" => ordered (· == .gt)
  | "-ge" => ordered (· != .lt)
  | _ => none

/-- Whether a sign stands between two values. -/
def isBinary (sign : String) : Bool := (binary? sign "0" "0").isSome

/-- Reads and decides the first condition of some arguments; the fuel bounds how
deep conditions are. -/
def first (c : Call) : Nat → List String → Except String (Bool × List String)
  | 0, _ => .error "too deep"
  | _, [] => .ok (false, [])
  | fuel + 1, args =>
    match args with
    | left :: sign :: right :: rest =>
      match binary? sign left right with
      | some result => result.map (·, rest)
      | none => single fuel args
    | [_, sign] => if isBinary sign then .error (sign ++ ": argument expected") else single fuel args
    | _ => single fuel args
where
  /-- A condition that does not start with two values. -/
  single (fuel : Nat) (args : List String) : Except String (Bool × List String) :=
    match args with
    | "!" :: rest =>
      if rest.isEmpty then .ok (true, [])
      else (first c fuel rest).map fun (b, r) => (!b, r)
    | "(" :: rest =>
      match first c fuel rest with
      | .ok (b, ")" :: rest) => .ok (b, rest)
      | .ok _ => .error "closing paren expected"
      | .error e => .error e
    | sign :: value :: rest =>
      match unary? c sign value with
      | some b => .ok (b, rest)
      | none => .ok (sign ≠ "", value :: rest)
    | [value] => .ok (value ≠ "", [])
    | [] => .error "argument expected"

/-- Decides conditions that are joined; the fuel bounds their number. -/
def joined (c : Call) (args : List String) : Nat → Bool → List String → Result
  | 0, _, _ => .error "too deep"
  | _, value, [] => .ok value
  | fuel + 1, value, "-a" :: rest => do
    let (b, rest) ← first c (rest.length + 1) rest
    joined c args fuel (value && b) rest
  | fuel + 1, value, "-o" :: rest => do
    let (b, rest) ← first c (rest.length + 1) rest
    let later ← joined c args fuel b rest
    return value || later
  | _, _, rest => .error (args.getD (args.length - rest.length - 1) "" ++ ": unexpected operator")

def decide (c : Call) (args : List String) : Result :=
  match args with
  | [] => .ok false
  | args => do
    let (b, rest) ← first c (args.length + 1) args
    joined c args (args.length + 1) b rest

/-- The tool under one of its two names. With `isLenient` a sign for equality may
be written twice. -/
def tool (isLenient : Bool) (speaker name : String) : Tool := fun c =>
  let args := if name = "[" then c.args.dropLast else c.args
  let args := if isLenient then args.map fun a => if a = "==" then "=" else a else args
  if name = "[" ∧ c.args.getLast? ≠ some "]" then
    { Answer.fail 2 (speaker ++ "[: missing ]") with rest := c.input }
  else match decide c args with
    | .ok b => { status := if b then 0 else 1, rest := c.input }
    | .error e => { Answer.fail 2 (speaker ++ name ++ ": " ++ e) with rest := c.input }

end Test

end Shell

end HookRules
