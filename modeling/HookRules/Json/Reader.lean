/-
Reading JSON text.

The tokens of a text drive a machine with a stack of unfinished arrays and
objects. What the machine expects next is a state of its own, so that a
misplaced comma, a missing colon or a second value is refused where it stands.
More than 127 arrays and objects inside one another are refused.

`written?` keeps the fields of objects as they were written, repeated names
included; `read?` brings them into order, the last of a name counting.
-/
import HookRules.Json.Token

namespace HookRules

namespace Json

namespace Reader

/-- An array or object that is not finished, its parts so far in reverse. -/
inductive Frame where
  | items (done : List Json)
  | fields (done : List (String × Json)) (name : String)

/-- What may come next. -/
inductive Expect where
  /-- A value. -/
  | value
  /-- The first item of an array, or its end. -/
  | item
  /-- The first name of an object, or its end. -/
  | name
  /-- A further name of an object. -/
  | nextName
  /-- The colon after a name. -/
  | colon
  /-- A comma or the end of the array or object, or of the text. -/
  | next

structure State where
  stack : List Frame
  expect : Expect
  /-- The value that was finished last, while it has not been put into a frame. -/
  last : Json

/-- The greatest number of arrays and objects inside one another. -/
def maxNesting : Nat := 127

/-- A value is finished; it waits for what follows it. -/
def State.finish (st : State) (v : Json) : State := { st with expect := .next, last := v }

/-- An array or object starts, unless too many are open. -/
def State.push (st : State) (f : Frame) (e : Expect) : Option State :=
  if st.stack.length < maxNesting then some { st with stack := f :: st.stack, expect := e }
  else none

/-- The value that a token starts or is. -/
def State.startValue (st : State) : Token → Option State
  | .null => some (st.finish .null)
  | .bool b => some (st.finish (.bool b))
  | .num n => some (st.finish (.num n))
  | .str s => some (st.finish (.str s))
  | .openBracket => st.push (.items []) .item
  | .openBrace => st.push (.fields [] "") .name
  | _ => none

/-- A name of the innermost object is read. -/
def State.setName (st : State) (name : String) : Option State :=
  match st.stack with
  | .fields done _ :: rest =>
    some { st with stack := .fields done name :: rest, expect := .colon }
  | _ => none

/-- The innermost array or object ends; `pending` holds the part read last. -/
def State.close (st : State) (bracket : Bool) (pending : Option Json) : Option State :=
  match st.stack, bracket with
  | .items done :: rest, true =>
    let items := match pending with
      | some v => v :: done
      | none => done
    some { stack := rest, expect := .next, last := .arr items.reverse }
  | .fields done name :: rest, false =>
    let fields := match pending with
      | some v => (name, v) :: done
      | none => done
    some { stack := rest, expect := .next, last := .obj fields.reverse }
  | _, _ => none

/-- A comma after the value read last. -/
def State.comma (st : State) : Option State :=
  match st.stack with
  | .items done :: rest =>
    some { st with stack := .items (st.last :: done) :: rest, expect := .value }
  | .fields done name :: rest =>
    some { st with stack := .fields ((name, st.last) :: done) "" :: rest, expect := .nextName }
  | [] => none

/-- One token. -/
def State.step (st : State) (t : Token) : Option State :=
  match st.expect, t with
  | .value, t => st.startValue t
  | .item, .closeBracket => st.close true none
  | .item, t => st.startValue t
  | .name, .closeBrace => st.close false none
  | .name, .str s => st.setName s
  | .nextName, .str s => st.setName s
  | .colon, .colon => some { st with expect := .value }
  | .next, .comma => st.comma
  | .next, .closeBracket => st.close true (some st.last)
  | .next, .closeBrace => st.close false (some st.last)
  | _, _ => none

/-- The value of a text that has been read to its end. -/
def State.result? (st : State) : Option Json :=
  match st.stack, st.expect with
  | [], .next => some st.last
  | _, _ => none

end Reader

/-- The value of a text, object fields as they were written. -/
def written? (s : String) : Option Json := do
  let tokens ← Token.scan s.toList
  let st ← tokens.foldlM Reader.State.step { stack := [], expect := .value, last := .null }
  st.result?

/-- The value of a text. -/
def read? (s : String) : Option Json := (written? s).map normalize

/-- The value of a text. If it is an object, its fields stay in written order and
keep repeated names. -/
def readRecord? (s : String) : Option Json :=
  (written? s).map fun
    | .obj fs => .obj (normalizeFields fs)
    | v => v.normalize

/-- The fields of a text that holds one object, in written order and with
repeated names. -/
def readFields? (s : String) : Option (List (String × Json)) := (readRecord? s).bind Json.obj?

end Json

end HookRules
