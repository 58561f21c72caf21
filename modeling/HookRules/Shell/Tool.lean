/-
Standard tools.

A tool is a function of its arguments, its input, and the files and variables
that it can see. It answers with output, messages, a status and how long it
took, and leaves input that it has not read.
-/
import HookRules.FileTree
import HookRules.Text.Utf8

namespace HookRules

namespace Shell

abbrev Bytes := List UInt8

def Bytes.ofText (s : String) : Bytes := s.toUTF8.toList

def Bytes.toText (bs : Bytes) : String := String.ofList (Text.decode bs)

/-- The lines of some bytes; the last one may be without a line end. -/
def Bytes.lines (bs : Bytes) : List Bytes :=
  let rows := bs.splitOn 10
  if rows.getLast? = some [] then rows.dropLast else rows

/-- Lines as bytes, each with its end. -/
def Bytes.ofLines (rows : List Bytes) : Bytes := rows.flatMap fun row => row ++ [10]

/-- One run of a tool. -/
structure Call where
  args : List String
  input : Bytes := []
  env : List (String × String) := []
  /-- The absolute path of the working directory. -/
  directory : String := "/"
  files : FileTree := .empty

structure Answer where
  output : Bytes := []
  errors : Bytes := []
  status : Nat := 0
  /-- The input that was not read. -/
  rest : Bytes := []
  elapsedMs : Nat := 0

abbrev Tool := Call → Answer

namespace Answer

def ofText (s : String) : Answer := { output := Bytes.ofText s }

/-- A failure with a message of one line. -/
def fail (status : Nat) (message : String) : Answer :=
  { errors := Bytes.ofText (message ++ "\n"), status }

end Answer

namespace Call

def path (c : Call) (name : String) : String := Path.join c.directory name

/-- The contents of a file, or what is said about it. -/
def read (c : Call) (name : String) : Except String Bytes :=
  match c.files.find? (c.path name) with
  | some (.file content _) => .ok (Bytes.ofText content)
  | some _ => .error (name ++ ": Is a directory")
  | none =>
    if name = "/dev/null" then .ok [] else .error (name ++ ": No such file or directory")

/-- The bytes of named files one after the other, or the input if there are none,
with what is said about those that could not be read. -/
def readAll (c : Call) (names : List String) : Bytes × List String :=
  if names.isEmpty then (c.input, [])
  else
    names.foldl
      (fun (bytes, faults) name =>
        if name = "-" ∨ name = "/dev/stdin" then (bytes ++ c.input, faults)
        else match c.read name with
          | .ok more => (bytes ++ more, faults)
          | .error fault => (bytes, faults ++ [fault]))
      ([], [])

end Call

/-- A tool that turns the bytes of the files that it is given, or its input, into
output. -/
def Answer.ofFilter (name : String) (c : Call) (files : List String) (f : Bytes → Bytes) : Answer :=
  let (bytes, faults) := c.readAll files
  { output := f bytes
    errors := Bytes.ofText (String.join (faults.map fun fault => name ++ ": " ++ fault ++ "\n"))
    status := if faults.isEmpty then 0 else 1
    rest := if files.isEmpty || files.contains "-" then [] else c.input }

-- ============================================================= options

/-- Arguments split into options and the rest. `takesValue` says which letters
are followed by a value, in the same argument or the next one. -/
def options (takesValue : Char → Bool) : List String → List (Char × String) × List String
  | [] => ([], [])
  | a :: rest =>
    match a.toList with
    | ['-', '-'] => ([], rest)
    | '-' :: letters =>
      if letters.isEmpty then
        let (os, files) := options takesValue rest
        (os, a :: files)
      else
        let (own, pending) := split letters
        match pending, rest with
        | some letter, value :: rest =>
          let (os, files) := options takesValue rest
          (own ++ (letter, value) :: os, files)
        | some letter, [] => (own ++ [(letter, "")], [])
        | none, rest =>
          let (os, files) := options takesValue rest
          (own ++ os, files)
    | _ =>
      let (os, files) := options takesValue rest
      (os, a :: files)
where
  /-- The options in one argument, and a letter whose value is still missing. -/
  split : List Char → List (Char × String) × Option Char
    | [] => ([], none)
    | c :: cs =>
      if takesValue c then
        if cs.isEmpty then ([], some c) else ([(c, String.ofList cs)], none)
      else
        let (os, pending) := split cs
        ((c, "") :: os, pending)

def hasOption (os : List (Char × String)) (c : Char) : Bool := os.any fun o => o.1 == c

def optionValue? (os : List (Char × String)) (c : Char) : Option String :=
  (os.filter fun o => o.1 == c).getLast?.map (·.2)

end Shell

end HookRules
