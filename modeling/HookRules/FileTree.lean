/-
File trees and the places that paths reach in them.

A tree has files, directories and symbolic links. Following a path looks each
name up in the directory reached so far; a link is replaced by its target, and
after forty links the path counts as endless. A name that does not exist, a
file that something follows, even a slash or a dot, and a directory that may
not be searched end the path without a place.
-/
import HookRules.Path
import HookRules.Table

namespace HookRules

inductive FileTree where
  | file (content : String) (mode : Nat)
  | dir (searchable : Bool) (entries : List (String × FileTree))
  | link (target : String)
deriving Inhabited

namespace FileTree

/-- A directory with nothing in it. -/
def empty : FileTree := .dir true []

/-- The node of a name inside a directory that may be searched. -/
def child? : FileTree → String → Option FileTree
  | .dir true entries, name => entries.lookup name
  | _, _ => none

/-- The node at the end of a list of names; links are not followed. -/
def at? (tree : FileTree) : List String → Option FileTree
  | [] => some tree
  | name :: names => (tree.child? name).bind fun t => t.at? names

-- ===================================================== following paths

/-- Follows segments from the directory with the names `done`, last name first.
`onLink` goes on where a link stands: with the names before it and with the
segments that the link and what follows it make. -/
def followWith (tree : FileTree) (onLink : List String → List String → Option (List String)) :
    List String → List String → Option (List String)
  | done, [] => some done.reverse
  | done, segment :: rest =>
    match tree.at? done.reverse with
    | some (.dir true _) =>
      if segment = "" ∨ segment = "." then followWith tree onLink done rest
      else if segment = ".." then followWith tree onLink (done.drop 1) rest
      else match tree.at? (segment :: done).reverse with
        | none => none
        | some (.link target) =>
          if target = "" then none
          else onLink (if Path.isAbsolute target then [] else done) (Path.segments target ++ rest)
        | some _ => followWith tree onLink (segment :: done) rest
    | _ => none

/-- Follows segments through at most `links` links. -/
def follow (tree : FileTree) : Nat → List String → List String → Option (List String)
  | 0 => followWith tree fun _ _ => none
  | links + 1 => followWith tree (follow tree links)

/-- The greatest number of links on one path. -/
def maxLinks : Nat := 40

/-- The names from the root to the place that an absolute path reaches. -/
def locate? (tree : FileTree) (path : String) : Option (List String) :=
  if Path.isAbsolute path then follow tree maxLinks [] (Path.segments path) else none

/-- The node that an absolute path reaches. -/
def find? (tree : FileTree) (path : String) : Option FileTree :=
  (tree.locate? path).bind tree.at?

def exists? (tree : FileTree) (path : String) : Bool := (tree.find? path).isSome

def isDir (tree : FileTree) (path : String) : Bool :=
  match tree.find? path with
  | some (.dir _ _) => true
  | _ => false

/-- A file that someone may execute. -/
def isExecutable (tree : FileTree) (path : String) : Bool :=
  match tree.find? path with
  | some (.file _ mode) => mode &&& 0o111 != 0
  | _ => false

/-- The content of a file. -/
def read? (tree : FileTree) (path : String) : Option String :=
  match tree.find? path with
  | some (.file content _) => some content
  | _ => none

-- ========================================================== building

/-- Puts a node at the end of a list of names, making the directories on the way. -/
def insert (tree : FileTree) (names : List String) (t : FileTree) : FileTree :=
  match names with
  | [] => t
  | name :: rest =>
    match tree with
    | .dir s entries =>
      let below := (entries.lookup name).getD empty
      .dir s (Table.set entries name (below.insert rest t))
    | _ => .dir true [(name, empty.insert rest t)]

-- ===================================================== lenient places

/-- The components of an absolute place. -/
def placeComponents (names : List String) : List Path.Component :=
  .root :: names.map .name

/-- The paths that contain a path, itself first, each with what is below it. The
path itself is tried as it is written; the others are written without what
ends in a slash or a dot. The last one is the root, or the empty path above a
relative one. -/
def ancestors (path : String) : List (String × List Path.Component) :=
  let cs := Path.components path
  let shorter := (List.range (if Path.isAbsolute path then cs.length - 1 else cs.length)).map fun k =>
    let kept := cs.length - 1 - k
    (Path.textOf (cs.take kept), cs.drop kept)
  (path, []) :: shorter

/-- The place of the longest existing part of a path, with what is left of the
path below it, normalised. A relative path is looked up from `base`. -/
def lenientPlace (tree : FileTree) (base path : String) : List Path.Component :=
  let found := (ancestors path).findSome? fun (ancestor, rest) =>
    if ancestor = "" then none
    else (tree.locate? (Path.join base ancestor)).map fun names =>
      Path.normalize (placeComponents names ++ rest)
  found.getD (Path.normalize (Path.components path))

/-- Whether a path lies at or below a base, links and steps up counted. Empty
texts lie nowhere. -/
def isUnder (tree : FileTree) (base : String) (home : Option String) (cwd path parent : String) :
    Bool :=
  path ≠ "" && parent ≠ "" &&
    Path.startsWith (tree.lenientPlace base (Path.resolve home cwd path))
      (tree.lenientPlace base (Path.resolve home cwd parent))

end FileTree

end HookRules
