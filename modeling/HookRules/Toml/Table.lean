/-
Tables of TOML while they are being filled.

A table is made by a header, by lying on the path of a header, or by a dotted
key, and that decides what may be added to it later: a header makes a table
once, and dotted keys add only to what dotted keys have made.
-/
import HookRules.Json.Basic
import HookRules.Table

namespace HookRules

namespace Toml

/-- What a table came about by. -/
inductive Origin where
  | header
  /-- It lies on the path of a header and has none of its own yet. -/
  | path
  | dotted
deriving DecidableEq

inductive Node where
  | value (v : Json)
  | table (origin : Origin) (entries : List (String × Node))
  /-- Tables that are the items of a list, each made by a header. -/
  | tables (items : List (List (String × Node)))

abbrev Entries := List (String × Node)

namespace Entries

/-- Adds a value under a dotted key. -/
def addValue (v : Json) : List String → Entries → Option Entries
  | [], _ => none
  | [name], es => if (es.lookup name).isSome then none else some (Table.set es name (.value v))
  | name :: next :: path, es =>
    match es.lookup name with
    | none =>
      (addValue v (next :: path) []).map fun t => Table.set es name (.table .dotted t)
    | some (.table origin t) =>
      if origin = .header ∨ path.isEmpty ∧ origin ≠ .dotted then none
      else (addValue v (next :: path) t).map fun t => Table.set es name (.table origin t)
    | some (.tables items) =>
      if path.isEmpty then none
      else (addValue v (next :: path) (items.getLast?.getD [])).map fun t =>
        Table.set es name (.tables (items.dropLast ++ [t]))
    | some (.value _) => none

/-- Changes the table at the end of a header's path, tables on the way being made
where there are none. Of a list of tables the last is meant. -/
def changeAt (change : Entries → Option Entries) : List String → Entries → Option Entries
  | [], es => change es
  | name :: path, es =>
    match es.lookup name with
    | none => (changeAt change path []).map fun t => Table.set es name (.table .path t)
    | some (.table origin t) =>
      (changeAt change path t).map fun t => Table.set es name (.table origin t)
    | some (.tables items) =>
      (changeAt change path (items.getLast?.getD [])).map fun t =>
        Table.set es name (.tables (items.dropLast ++ [t]))
    | some (.value _) => none

/-- Makes the table of a header. -/
def openTable (name : String) (es : Entries) : Option Entries :=
  match es.lookup name with
  | none => some (Table.set es name (.table .header []))
  | some (.table .path t) => some (Table.set es name (.table .header t))
  | some _ => none

/-- Makes one more table of a list. -/
def openItem (name : String) (es : Entries) : Option Entries :=
  match es.lookup name with
  | none => some (Table.set es name (.tables [[]]))
  | some (.tables items) => some (Table.set es name (.tables (items ++ [[]])))
  | some _ => none

end Entries

mutual

def Node.toJson : Node → Json
  | .value v => v
  | .table _ entries => .ofFields (entriesJson entries)
  | .tables items => .arr (itemsJson items)

def entriesJson : List (String × Node) → List (String × Json)
  | [] => []
  | (name, node) :: rest => (name, node.toJson) :: entriesJson rest

def itemsJson : List (List (String × Node)) → List Json
  | [] => []
  | entries :: rest => .ofFields (entriesJson entries) :: itemsJson rest

end

-- ========================================================== documents

/-- What a line of a document says. -/
inductive Line where
  | blank
  | value (key : List String) (v : Json)
  | table (path : List String)
  | item (path : List String)

/-- A document up to some line: its tables, and the path of the one to which
values are added. -/
structure Document where
  root : Entries := []
  current : List String := []

namespace Document

/-- Makes what the last part of a header names. -/
def openWith (make : String → Entries → Option Entries) (path : List String) (d : Document) :
    Option Document := do
  let name ← path.getLast?
  let root ← Entries.changeAt (make name) path.dropLast d.root
  return { root, current := path }

def add (d : Document) : Line → Option Document
  | .blank => some d
  | .value key v =>
    (Entries.changeAt (Entries.addValue v key) d.current d.root).map fun root => { d with root }
  | .table path => d.openWith Entries.openTable path
  | .item path => d.openWith Entries.openItem path

def toJson (d : Document) : Json := .ofFields (entriesJson d.root)

end Document

end Toml

end HookRules
