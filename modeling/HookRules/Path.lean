/-
Paths as text and as components.

The components of a path are what is left of its text when repeated slashes and
single dots are dropped; a dot counts only at the start of a relative path.
Resolving and joining work on the text, comparing and normalising on the
components. Nothing here looks at files.
-/
namespace HookRules

namespace Path

-- ======================================================== components

/-- One step of a path. -/
inductive Component where
  | root
  /-- A dot at the start of a relative path. -/
  | here
  | up
  | name (s : String)
deriving DecidableEq

/-- The parts of a text between slashes. -/
def segments (path : String) : List String := (path.toList.splitOn '/').map String.ofList

/-- The component of a segment that is neither empty nor a dot. -/
def Component.ofSegment (s : String) : Component := if s = ".." then .up else .name s

/-- Whether a path starts at the root. -/
def isAbsolute (path : String) : Bool := path.toList.head? == some '/'

/-- The components of a path. -/
def components (path : String) : List Component :=
  let ss := segments path
  let start : List Component :=
    if isAbsolute path then [.root]
    else if ss.head? = some "." then [.here]
    else []
  start ++ ((ss.filter fun s => s ≠ "" ∧ s ≠ ".").map Component.ofSegment)

/-- What is left of a path after the components of another at its start. -/
def dropLeading? : List Component → List Component → Option (List Component)
  | rest, [] => some rest
  | c :: cs, d :: ds => if c = d then dropLeading? cs ds else none
  | [], _ :: _ => none

/-- Whether the components of one path start with those of another. -/
def startsWith (cs ds : List Component) : Bool := (dropLeading? cs ds).isSome

/-- The last component, if it is a name. -/
def fileName? (path : String) : Option String :=
  match (components path).getLast? with
  | some (.name s) => some s
  | _ => none

def Component.text : Component → String
  | .root => "/"
  | .here => "."
  | .up => ".."
  | .name s => s

/-- The text of components. -/
def textOf : List Component → String
  | .root :: cs => "/" ++ "/".intercalate (cs.map Component.text)
  | cs => "/".intercalate (cs.map Component.text)

-- ============================================================ joining

/-- A path seen from a directory: an absolute path stays as it is. -/
def join (directory path : String) : String :=
  if isAbsolute path then path
  else if directory = "" || directory.toList.getLast? = some '/' then directory ++ path
  else directory ++ "/" ++ path

/-- A path as a user writes it: a tilde stands for the home directory, if there
is one, and a relative path is seen from the working directory. -/
def resolve (home : Option String) (cwd path : String) : String :=
  let expanded :=
    match path.toList, home with
    | ['~'], some home => home
    | '~' :: '/' :: rest, some home => join home (String.ofList rest)
    | _, _ => path
  if isAbsolute expanded then expanded else join cwd expanded

-- ====================================================== relative text

/-- Segments after the first `n` that name a component. -/
def afterComponents : Nat → List String → List String
  | 0, ss => ss
  | _, [] => []
  | n + 1, s :: ss =>
    if s = "" ∨ s = "." then afterComponents (n + 1) ss else afterComponents n ss

/-- Whether a segment names no component inside a path. -/
def isIdle (s : String) : Bool := s == "" || s == "."

/-- Segments without those at the end that name no component. -/
def trimEnd (ss : List String) : List String := (ss.reverse.dropWhile isIdle).reverse

/-- Segments without those at both ends that name no component. -/
def trimSegments (ss : List String) : List String := trimEnd (ss.dropWhile isIdle)

/-- The text of a path without the slashes and dots that end it. The root and a
dot at the start stay. -/
def trimmed (path : String) : String :=
  let ss := segments path
  let start := if isAbsolute path || ss.head? == some "." then 1 else 0
  match ss.take start, trimEnd (ss.drop start) with
  | [""], [] => "/"
  | lead, rest => "/".intercalate (lead ++ rest)

/-- What is left of the text of a path below a directory that it starts with.
Inner slashes and dots stay as they are written. -/
def relativeTo? (path directory : String) : Option String :=
  let base := components directory
  if startsWith (components path) base then
    match base with
    | [] => some (trimmed path)
    | .root :: rest | .here :: rest =>
      some ("/".intercalate (trimSegments (afterComponents rest.length ((segments path).drop 1))))
    | base => some ("/".intercalate (trimSegments (afterComponents base.length (segments path))))
  else none

-- ======================================================= normalising

/-- One more component on a normalised path, which is held last component
first. A step up takes a component away; at the root it stays there, and with
nothing to take away it is kept. -/
def normalizeStep : List Component → Component → List Component
  | done, .here => done
  | [], .up => [.up]
  | [.root], .up => [.root]
  | _ :: rest, .up => rest
  | _, .root => [.root]
  | done, .name s => .name s :: done

/-- A path without dots and with steps up carried out on the names before them. -/
def normalize (cs : List Component) : List Component :=
  (cs.foldl normalizeStep []).reverse

end Path

end HookRules
