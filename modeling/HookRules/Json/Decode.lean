/-
Reading records out of JSON values.

A record is an object, or a list of the values of its fields in their order.
Each field is read by name: a required one has to be there, one with a default
may be left out, and an optional one may also be null. A field that is given
twice is refused; fields that the record does not have are passed over.

Values also come from documents of formats without nulls. There a null only
stands for a value that JSON has not, and never for absence.
-/
import HookRules.Json.Basic

namespace HookRules

/-- The formats that values are written in. -/
inductive DataFormat where
  | json | toml
deriving DecidableEq, Inhabited

namespace Json

/-- The fields of a record whose fields have the given names, in their order.
A list with more values than there are fields is no record in JSON. -/
def recordIn? (format : DataFormat) (names : List String) : Json → Option (List (String × Json))
  | .obj fs => some fs
  | .arr vs =>
    if format = .toml ∨ vs.length ≤ names.length then some (names.zip vs) else none
  | _ => none

/-- The name of an alternative without contents: a text, or an object with that
one field and nothing in it. -/
def alternativeIn? : DataFormat → Json → Option String
  | _, .str s => some s
  | .json, .obj [(name, .null)] => some name
  | .toml, .obj [(name, .obj [])] => some name
  | .toml, .obj [(name, .arr [])] => some name
  | _, _ => none

/-- The fields of a record that is written as JSON. -/
def record? (names : List String) (v : Json) : Option (List (String × Json)) :=
  v.recordIn? .json names

/-- The name of an alternative without contents that is written as JSON. -/
def alternative? (v : Json) : Option String := v.alternativeIn? .json

/-- The name of an alternative inside a record that says its own kind. There the
one field may also hold an empty object. -/
def innerAlternative? : Json → Option String
  | .obj [(name, .obj [])] => some name
  | v => v.alternative?

/-- The items of a list, each read by `read`. -/
def list? (read : Json → Option α) : Json → Option (List α)
  | .arr vs => vs.mapM read
  | _ => none

/-- Text keys with values read by `read`. -/
def dictionary? (read : Json → Option α) : Json → Option (List (String × α))
  | .obj fs => fs.mapM fun f => (read f.2).map (f.1, ·)
  | _ => none

end Json

namespace Fields

/-- A field that has to be there. -/
def required? (fs : List (String × Json)) (name : String) (read : Json → Option α) : Option α :=
  match single? fs name with
  | some (some v) => read v
  | _ => none

/-- A field with a default. -/
def default? (fs : List (String × Json)) (name : String) (value : α) (read : Json → Option α) :
    Option α :=
  match single? fs name with
  | some (some v) => read v
  | some none => some value
  | none => none

/-- A field that may be left out, or be null where that stands for absence. -/
def optionalIn? (format : DataFormat) (fs : List (String × Json)) (name : String)
    (read : Json → Option α) : Option (Option α) :=
  match single? fs name with
  | some (some v) => if format = .json ∧ v.isNull then some none else (read v).map some
  | some none => some none
  | none => none

/-- A field of a JSON object that may be left out or null. -/
def optional? (fs : List (String × Json)) (name : String) (read : Json → Option α) :
    Option (Option α) :=
  optionalIn? .json fs name read

/-- A field that is written only if there is a value. -/
def ofOption (name : String) (write : α → Json) (value : Option α) : List (String × Json) :=
  match value with
  | some v => [(name, write v)]
  | none => []

end Fields

end HookRules
