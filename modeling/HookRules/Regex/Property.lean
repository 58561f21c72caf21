/-
Character properties named in patterns.

A name is compared in lower case and without blanks, underscores and hyphens.
Alone it names a property, a general category or a script; after `gc=` it is a
category and after `sc=` a script. Three short names that would name both a
property and a category name the category.
-/
import HookRules.Regex.CharSet
import HookRules.Text.Script

namespace HookRules

namespace Regex

namespace CharSet

/-- A name in the form in which names are compared; a leading `is` is dropped. -/
def normalName (cs : List Char) : String :=
  let plain := (cs.filter fun c => !(c == ' ' || c == '_' || c == '-') && c.toNat < 128).map
    (·.toLower)
  match plain with
  | 'i' :: 's' :: rest => if rest == ['c'] then "isc" else String.ofList rest
  | _ => String.ofList plain

/-- The set of a general category or group of categories. -/
def category? (name : String) : Option CharSet :=
  match name with
  | "any" => some .anything
  | "ascii" => some (.range 0 0x7F)
  | "assigned" => some assigned
  | "cn" | "unassigned" => some (.compl assigned)
  | "c" | "other" =>
    some (.union (.compl assigned) (unionOf ["cc", "cf", "co"]))
  | "cs" | "surrogate" => some .nothing
  | name =>
    match Text.categoryGroups.find? fun g => g.1.contains name with
    | some g => some (unionOf g.2)
    | none => (Text.category? name).map CharSet.ranges
where
  unionOf (names : List String) : CharSet :=
    names.foldr (fun n s =>
      match Text.category? n with
      | some r => .union (.ranges r) s
      | none => s) .nothing
  assigned : CharSet :=
    Text.categories.foldr (fun c s => .union (.ranges c.2) s) .nothing

/-- The set of a name that stands alone. -/
def named? (name : String) : Option CharSet :=
  let property :=
    if name == "cf" || name == "sc" || name == "lc" then none
    else (Text.property? name).map CharSet.ranges
  property.or ((category? name).or ((Text.script? name).map CharSet.ranges))

/-- The set of a property and a value. -/
def valued? (property value : String) : Option CharSet :=
  if property == "gc" || property == "generalcategory" then category? value
  else if property == "sc" || property == "script" || property == "scx"
      || property == "scriptextensions" then
    (Text.script? value).map CharSet.ranges
  else none

/-- The set that stands between the braces of a property escape, and whether
an unequal sign negates it. -/
def ofPropertyText? (cs : List Char) : Option (CharSet × Bool) :=
  let rec split (before : List Char) : List Char → Option (List Char × List Char × Bool)
    | [] => none
    | '!' :: '=' :: rest => some (before.reverse, rest, true)
    | c :: rest => split (c :: before) rest
  match split [] cs with
  | some (name, value, _) => (valued? (normalName name) (normalName value)).map (·, true)
  | none =>
    let mark := if cs.contains ':' then ':' else '='
    match cs.span (· != mark) with
    | (name, _ :: value) => (valued? (normalName name) (normalName value)).map (·, false)
    | (name, []) => (named? (normalName name)).map (·, false)

end CharSet

end Regex

end HookRules
