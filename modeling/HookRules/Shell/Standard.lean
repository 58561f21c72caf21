/-
The standard tools by name, and how the program of a name is found.

A file that holds a standard tool starts with a mark and is known by its name.
A file that starts with a number sign and an exclamation mark names the program
that reads it.
-/
import HookRules.Automation.Fault
import HookRules.Shell.Search
import HookRules.Shell.Test

namespace HookRules

namespace Shell

namespace Standard

/-- A tool that does not read its input. -/
def idle (t : Tool) : Tool := fun c => { t c with rest := c.input }

/-- The variables that a program sees, or the values of some. -/
def printenv : Tool := fun c =>
  let lookup (name : String) : Option String := c.env.lookup name
  match c.args with
  | [] => .ofText (String.join (c.env.map fun (name, value) => name ++ "=" ++ value ++ "\n"))
  | names =>
    { Answer.ofText (String.join (names.filterMap fun name => (lookup name).map (· ++ "\n"))) with
      status := if names.all fun name => (lookup name).isSome then 0 else 1 }

/-- The place that a path leads to. -/
def realpath : Tool := fun c =>
  let (_, names) := options (fun _ => false) c.args
  let found := names.map fun name => (name, c.files.locate? (c.path name))
  { output := Bytes.ofText (String.join (found.filterMap fun (_, place) =>
      place.map fun names => "/" ++ "/".intercalate names ++ "\n"))
    errors := Bytes.ofText (String.join (found.filterMap fun (name, place) =>
      if place.isNone then some ("realpath: " ++ name ++ ": No such file or directory\n") else none))
    status := if found.all (·.2.isSome) then 0 else 1 }

/-- The value of an integer expression with one sign, or of a single argument. -/
def expr : Tool := fun c =>
  let shown (text : String) : Answer :=
    { Answer.ofText (text ++ "\n") with status := if text = "" ∨ text = "0" then 1 else 0 }
  match c.args with
  | [text] => shown text
  | [left, sign, right] =>
    match Printing.integer? left, Printing.integer? right with
    | some a, some b =>
      if sign ∈ ["+", "-", "*", "/", "%"] then
        if (sign = "/" ∨ sign = "%") ∧ b = 0 then .fail 2 "expr: division by zero"
        else shown (toString (match sign with
          | "+" => a + b
          | "-" => a - b
          | "*" => a * b
          | "/" => a.tdiv b
          | _ => a.tmod b))
      else match Test.binary? (if sign = "=" then "-eq" else if sign = "!=" then "-ne"
          else if sign = "<" then "-lt" else if sign = ">" then "-gt"
          else if sign = "<=" then "-le" else if sign = ">=" then "-ge" else sign) left right with
        | some (.ok b) => shown (if b then "1" else "0")
        | _ => .fail 2 "expr: syntax error"
    | _, _ =>
      match sign with
      | "=" => shown (if left = right then "1" else "0")
      | "!=" => shown (if left = right then "0" else "1")
      | _ => .fail 2 "expr: non-integer argument"
  | _ => .fail 2 "expr: syntax error"

/-- One line again and again, as often as can matter. -/
def yes : Tool := fun c =>
  let line := (if c.args.isEmpty then "y" else " ".intercalate c.args) ++ "\n"
  .ofText (String.join (List.replicate 65536 line))

/-- Tools that are a function of what they see, by name. -/
def tools : List (String × Tool) :=
  [("true", idle fun _ => {}), ("false", idle fun _ => { status := 1 }),
   ("echo", Printing.echo), ("printf", Printing.printf "" true),
   ("test", Test.tool true "" "test"), ("[", Test.tool true "" "["),
   ("cat", Filter.cat), ("head", Filter.head), ("tail", Filter.tail), ("wc", Filter.wc),
   ("tr", Filter.tr), ("cut", Filter.cut), ("sort", Filter.sort), ("uniq", Filter.uniq),
   ("tac", Filter.tac), ("rev", Filter.rev), ("tee", fun c => .ofFilter "tee" c [] id),
   ("seq", idle Filter.seq), ("basename", idle Filter.basename),
   ("dirname", idle Filter.dirname), ("ls", idle Filter.ls), ("sleep", Filter.sleep),
   ("pwd", idle fun c => .ofText (c.directory ++ "\n")),
   ("grep", Search.grep {}), ("egrep", Search.grep { extended := true }),
   ("fgrep", Search.grep { fixed := true }), ("sed", Search.sed),
   ("printenv", idle printenv), ("realpath", idle realpath), ("expr", idle expr),
   ("yes", idle yes)]

/-- Programs that run other programs. -/
def runners : List String := ["sh", "dash", "bash", "env", "nohup", "timeout", "xargs"]

def names : List String := tools.map (·.1) ++ runners

/-- What a file starts with that holds a standard tool. -/
def mark : String := "\x7fELF"

/-- The files with all standard tools in a directory. -/
def install (directory : List String) (files : FileTree) : FileTree :=
  names.foldl (fun t name => t.insert (directory ++ [name]) (.file mark 0o755)) files

-- ============================================================ programs

/-- The directories in which programs are looked for. -/
def searchPath : String := "/usr/local/sbin:/usr/local/bin:/usr/sbin:/usr/bin:/sbin:/bin"

/-- What a file does when it is run. -/
inductive Program where
  | standard (name : String)
  /-- The text after the sign that names another program. -/
  | interpreted (line : String)
  /-- Anything else. -/
  | unknown (text : String)

def Program.ofFile (path content : String) : Program :=
  if content.startsWith mark then .standard ((Path.segments path).getLast?.getD "")
  else match content.toList with
    | '#' :: '!' :: rest => .interpreted (String.ofList (rest.takeWhile (· != '\n')))
    | _ => .unknown content

/-- The program and the argument that an interpreter line names. -/
def interpreter? (line : String) : Option (String × List String) :=
  let isBlank (c : Char) : Bool := c == ' ' || c == '\t'
  let trimmed := ((line.toList.dropWhile isBlank).reverse.dropWhile isBlank).reverse
  let (program, rest) := trimmed.span fun c => !isBlank c
  let argument := rest.dropWhile isBlank
  if program.isEmpty then none
  else some (String.ofList program, if argument.isEmpty then [] else [String.ofList argument])

/-- Whether a path goes through a file as if it were a directory. -/
def passesFile (files : FileTree) (path : String) : Bool :=
  let steps := Path.segments path
  (List.range steps.length).any fun k =>
    let above := "/".intercalate (steps.take k)
    above ≠ "" && files.exists? above && !files.isDir above

/-- The program at an absolute path. -/
def programAt (files : FileTree) (path : String) : Except SpawnFault Program :=
  match files.find? path with
  | none => .error (if passesFile files path then .notDirectory else .notFound)
  | some (.file content _) =>
    if files.isExecutable path then .ok (.ofFile path content) else .error .notPermitted
  | some _ => .error .notPermitted

/-- The program of a name and its path: a name with a slash is a path, any other
is looked for in the directories of a search path. A program that may not be run
counts only if there is no other. -/
def find (files : FileTree) (directory search name : String) :
    Except SpawnFault (String × Program) :=
  if name = "" then .error .notFound
  else if name.toList.contains '/' then
    (programAt files (Path.join directory name)).map fun p => (name, p)
  else
    (search.splitOn ":").foldr
      (fun place later =>
        let path := Path.join (if place = "" then directory else Path.join directory place) name
        match programAt files path with
        | .ok p => .ok (path, p)
        | .error .notPermitted =>
          match later with
          | .error _ => .error .notPermitted
          | found => found
        | .error _ => later)
      (.error .notFound)

end Standard

end Shell

end HookRules
