/-
From the pieces of a word to fields.

The values in a word that are not quoted are split at separators. A field that
is a pattern is replaced by the paths that it stands for, or kept as it is if
there are none.
-/
import HookRules.FileTree
import HookRules.Shell.Pattern

namespace HookRules

namespace Shell

/-- A part of a word whose value is known. -/
inductive Piece where
  /-- Text that is not split. -/
  | text (s : String) (isQuoted : Bool)
  /-- Text that is split at separators. -/
  | value (s : String)
  /-- The end of one argument of a list. -/
  | border
  /-- A list of no arguments in quotes. -/
  | absent

namespace Piece

/-- A value where it may be split, or in quotes. -/
def ofValue (isQuoted : Bool) (s : String) : Piece := if isQuoted then .text s true else .value s

/-- The pieces of a list of arguments that stay apart. -/
def ofArgs (isQuoted : Bool) (args : List String) : List Piece :=
  if args.isEmpty && isQuoted then [.absent]
  else (args.map (ofValue isQuoted)).intersperse .border

/-- Text as a value, where a word stands for a value that is not quoted. -/
def loosen : Piece → Piece
  | .text s false => .value s
  | p => p

/-- What a piece is in a text that is not split. -/
def field : Piece → Field
  | .text s isQuoted => Field.ofText s isQuoted
  | .value s => Field.ofText s false
  | .border => Field.ofText " " false
  | .absent => []

end Piece

-- =========================================================== splitting

/-- Fields made so far, last one first, and the one that is being made. -/
structure Splitting where
  fields : List Field := []
  current : Option Field := none
  /-- Whether a list of no arguments was seen. -/
  isAbsent : Bool := false

namespace Splitting

def add (s : Splitting) (f : Field) : Splitting :=
  { s with current := some (s.current.getD [] ++ f) }

/-- Ends the current field, if one has begun. -/
def close (s : Splitting) : Splitting :=
  match s.current with
  | some f => { s with fields := f :: s.fields, current := none }
  | none => s

def isBlank (c : Char) : Bool := c == ' ' || c == '\t' || c == '\n'

/-- One character of a value. A separator that is no blank ends a field even if
nothing stands before it. -/
def addChar (separators : List Char) (s : Splitting) (c : Char) : Splitting :=
  if separators.contains c then
    if isBlank c then s.close else { s with current := some (s.current.getD []) }.close
  else s.add [(c, false)]

def step (separators : List Char) (s : Splitting) : Piece → Splitting
  | .text t isQuoted => if t = "" ∧ !isQuoted then s else s.add (Field.ofText t isQuoted)
  | .value t => t.toList.foldl (addChar separators) s
  | .border => s.close
  | .absent => { s with isAbsent := true }

/-- All fields. An empty one around a list of no arguments does not count. -/
def finish (s : Splitting) : List Field :=
  if s.isAbsent ∧ s.current = some [] then s.fields.reverse else s.close.fields.reverse

end Splitting

/-- The fields that pieces make. -/
def Field.ofPieces (separators : List Char) (pieces : List Piece) : List Field :=
  (pieces.foldl (Splitting.step separators) {}).finish

-- =============================================================== paths

/-- The names that a pattern stands for in a directory. A dot at the start of a
name has to be written. -/
def Field.names (pattern : Field) (node : Option FileTree) : List String :=
  match node with
  | some (.dir _ entries) =>
    let shown := (entries.map (·.1)).filter fun name =>
      (!name.startsWith "." || pattern.head?.any (·.1 == '.')) && pattern.accepts name.toList
    shown.mergeSort (· ≤ ·)
  | _ => []

/-- The paths below a directory that patterns between slashes stand for, as they
are written after what stands before them. -/
def Field.below (files : FileTree) (directory : String) : String → List Field → List String
  | done, [] => [done]
  | done, part :: rest =>
    let join (name : String) : String := done ++ name ++ (if rest.isEmpty then "" else "/")
    if part.isPattern then
      (part.names (files.find? (Path.join directory (if done = "" then "." else done)))).flatMap
        fun name => Field.below files directory (join name) rest
    else
      let next := join part.text
      if rest.isEmpty && !files.exists? (Path.join directory next) then []
      else Field.below files directory next rest

/-- What a field is in a command: the paths that it stands for, or itself. -/
def Field.expanded (files : FileTree) (directory : String) (f : Field) : List String :=
  if f.isPattern then
    match Field.below files directory "" (f.splitOnP (·.1 == '/')) with
    | [] => [f.text]
    | paths => paths
  else [f.text]

end Shell

end HookRules
