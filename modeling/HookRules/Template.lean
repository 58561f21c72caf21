/-
Placeholders in messages.

`${name}` and `${name.field}` stand for values of the flat view of a context.
A template is read once from left to right: what a placeholder is replaced by
is not looked at again, and what is no placeholder is copied.
-/
import HookRules.Json.Printer

namespace HookRules

namespace Template

/-- Whether a character can start a name. -/
def startsName (c : Char) : Bool := c.isAlpha || c == '_'

/-- Whether a character can continue a name. -/
def continuesName (c : Char) : Bool := c.isAlphanum || c == '_'

/-- A name at the front of a text, and what follows it. -/
def name? : List Char → Option (List Char × List Char)
  | [] => none
  | c :: cs => if startsName c then some ((c :: cs).span continuesName) else none

/-- What a placeholder names. -/
structure Placeholder where
  name : List Char
  field : Option (List Char)

/-- The number of characters of a written placeholder. -/
def Placeholder.length (p : Placeholder) : Nat :=
  3 + p.name.length + (p.field.map (·.length + 1)).getD 0

/-- The placeholder at the front of a text. -/
def placeholder? : List Char → Option Placeholder
  | '$' :: '\x7b' :: rest =>
    match name? rest with
    | some (name, '\x7d' :: _) => some ⟨name, none⟩
    | some (name, '.' :: rest) =>
      match name? rest with
      | some (field, '\x7d' :: _) => some ⟨name, some field⟩
      | _ => none
    | _ => none
  | _ => none

/-- The value that a placeholder names. -/
def Placeholder.value? (p : Placeholder) (ctx : Fields) : Option Json :=
  let root := Fields.get? ctx (String.ofList p.name)
  match p.field with
  | none => root
  | some field => root.bind fun v => v.get? (String.ofList field)

/-- How a value is inserted: a text as it is, nothing for null, and compact JSON
for everything else. -/
def insertion : Option Json → List Char
  | none => []
  | some .null => []
  | some (.str s) => s.toList
  | some v => v.chars

/-- The text with its placeholders replaced, after `skip` characters that belong
to a placeholder. -/
def fillFrom (ctx : Fields) : Nat → List Char → List Char
  | _, [] => []
  | skip + 1, _ :: cs => fillFrom ctx skip cs
  | 0, c :: cs =>
    match placeholder? (c :: cs) with
    | some p => insertion (p.value? ctx) ++ fillFrom ctx (p.length - 1) cs
    | none => c :: fillFrom ctx 0 cs

/-- Whether a text has the two characters that open a placeholder. -/
def opens : List Char → Bool
  | [] => false
  | c :: cs => ['$', '\x7b'].isPrefixOf (c :: cs) || opens cs

/-- A template with its placeholders replaced. One in which no placeholder is
opened is not read: it is given back as it is. -/
def fill (template : String) (ctx : Fields) : String :=
  if opens template.toList then String.ofList (fillFrom ctx 0 template.toList)
  else template

end Template

end HookRules
