/-
Reading TOML documents.

A document is read line by line; a value may run over several lines inside
brackets. Lists may hold line ends, comments and a comma at the end, tables in
braces may not.
-/
import HookRules.Toml.Scalar
import HookRules.Toml.Table

namespace HookRules

namespace Toml

-- ============================================================= values

/-- The items of a list after its bracket; the fuel bounds their number. -/
def items (value : Step Json) : Nat → Step (List Json)
  | 0, _ => none
  | fuel + 1, cs =>
    match dropIdle cs with
    | ']' :: rest => some ([], rest)
    | cs => do
      let (v, rest) ← value cs
      match dropIdle rest with
      | ',' :: rest =>
        let (vs, rest) ← items value fuel rest
        return (v :: vs, rest)
      | ']' :: rest => return ([v], rest)
      | _ => none

/-- A key and its value. -/
def pair (value : Step Json) (cs : List Char) : Option ((List String × Json) × List Char) := do
  let (k, rest) ← key cs
  let ((), rest) ← mark '=' rest
  let (v, rest) ← value (dropBlanks rest)
  return ((k, v), dropBlanks rest)

/-- The pairs of a table in braces, one at least; the fuel bounds their number. -/
def pairs (value : Step Json) : Nat → Step (List (List String × Json))
  | 0, _ => none
  | fuel + 1, cs => do
    let (p, rest) ← pair value cs
    match rest with
    | ',' :: rest =>
      let (ps, rest) ← pairs value fuel rest
      return (p :: ps, rest)
    | '\x7d' :: rest => return ([p], rest)
    | _ => none

/-- The object of the pairs of a table in braces. -/
def tableOfPairs (ps : List (List String × Json)) : Option Json :=
  (ps.foldlM (fun es (k, v) => Entries.addValue v k es) []).map fun es =>
    .ofFields (entriesJson es)

/-- A table after its brace. -/
def braces (value : Step Json) (cs : List Char) : Option (Json × List Char) :=
  match dropBlanks cs with
  | '\x7d' :: rest => some (.obj [], rest)
  | _ => do
    let (ps, rest) ← pairs value cs.length cs
    let v ← tableOfPairs ps
    return (v, rest)

/-- A value that holds others up to a depth. -/
def value : Nat → Step Json
  | depth, '[' :: rest =>
    match depth with
    | 0 => none
    | depth + 1 => (items (value depth) (rest.length + 1) rest).map fun (vs, rest) => (.arr vs, rest)
  | depth, '\x7b' :: rest =>
    match depth with
    | 0 => none
    | depth + 1 => braces (value depth) rest
  | _, '"' :: rest => (string ('"' :: rest)).map fun (s, rest) => (.str s, rest)
  | _, '\'' :: rest => (string ('\'' :: rest)).map fun (s, rest) => (.str s, rest)
  | _, cs => scalar cs

-- ============================================================== lines

/-- What a line says that is not empty, and what follows it on the line. -/
def statement (cs : List Char) : Option (Line × List Char) :=
  match cs with
  | '[' :: '[' :: rest =>
    match key rest with
    | some (path, ']' :: ']' :: rest) => some (.item path, rest)
    | _ => none
  | '[' :: rest =>
    match key rest with
    | some (path, ']' :: rest) => some (.table path, rest)
    | _ => none
  | _ => (pair (value maxNesting) cs).map fun ((k, v), rest) => (.value k v, rest)

/-- A line with its end. -/
def line (cs : List Char) : Option (Line × List Char) :=
  match endOfLine? cs with
  | some rest => some (.blank, rest)
  | none => do
    let (l, rest) ← statement (dropBlanks cs)
    let rest ← endOfLine? rest
    return (l, rest)

/-- The lines of a text; the fuel bounds their number. -/
def linesWith : Nat → List Char → Option (List Line)
  | _, [] => some []
  | 0, _ => none
  | fuel + 1, cs => do
    let (l, rest) ← line cs
    let ls ← linesWith fuel rest
    return l :: ls

/-- The lines of a document, which may start with a byte order mark. -/
def lines? (text : String) : Option (List Line) :=
  match text.toList with
  | '\uFEFF' :: cs => linesWith cs.length cs
  | cs => linesWith cs.length cs

/-- The object of a document. -/
def read? (text : String) : Option Json := do
  let ls ← lines? text
  let d ← ls.foldlM Document.add {}
  return d.toJson

end Toml

end HookRules
