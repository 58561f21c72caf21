/-
What changes of the input set.

`Contribution.fieldsSet` says what an action sets in an object. Here the same is told
from outside: by the configuration of a modification and the value that it finds, and
by what the callable or the program of a transformation does.

# Modifications

A modification sets at most one field, the one that it names. `Modifies` lists the
values that an operation can lead to; where it lists none, because a text would be
added to something else or because a pattern is none, the field stays
(`fieldsSet_modify_iff`).

# Transformations

A transformation gets an object of a callable, which returns it, or of a program,
which prints text of it (`Transforms`). What the action makes of that is the object: a
returned one as it is, and a printed one as far as text tells it, that is, up to its
fractions (`Transforms.answer`). The transformation sets the fields of the object
that stands under `transform_input`, and if there is none, it sets nothing
(`Transforms.fieldsSet`, `Transforms.fieldsSet_of_no_object`).
-/
import HookRules.Proofs.Contribution.Delivery
import HookRules.Proofs.Pass.WholeInput

namespace HookRules

-- =============================================================== modifications

/-- The value to which a modification takes a field, by its operation and the value
that the field has. -/
inductive Modifies (a : Action) : Option Json → Json → Prop where
  /-- Without another operation the field is set. -/
  | set {current : Option Json} (hop : a.operation.getD .set = .set) :
      Modifies a current (a.value.getD .null)
  | append {old new : String} (hop : a.operation = some .append)
      (hvalue : a.value = some (.str new)) :
      Modifies a (some (.str old)) (.str (old ++ new))
  | prepend {old new : String} (hop : a.operation = some .prepend)
      (hvalue : a.value = some (.str new)) :
      Modifies a (some (.str old)) (.str (new ++ old))
  /-- Text is added to a field without a value as to an empty text. -/
  | start {current : Option Json} {new : String}
      (hop : a.operation = some .append ∨ a.operation = some .prepend)
      (hvalue : a.value = some (.str new))
      (hcurrent : current = none ∨ current = some .null) :
      Modifies a current (.str new)
  /-- Every match of the pattern is replaced by the value, or by nothing if that is
  no text. -/
  | replace {pattern old : String} {regex : Regex}
      (hop : a.operation = some .replace) (hpattern : a.pattern = some pattern)
      (hregex : Regex.ofText pattern = .ok regex) :
      Modifies a (some (.str old))
        (.str (regex.replaceAll old ((a.value.bind Json.str?).getD "")))

namespace Contribution

/-- Text can be added to a text, and to a field without a value. -/
theorem extended_eq_some_iff (join : String → String → String)
    (current : Option Json) (value v : Json) :
    extended join current value = some v
      ↔ ∃ new, value = .str new
        ∧ ((∃ old, current = some (.str old) ∧ v = .str (join old new))
          ∨ (current = none ∨ current = some .null) ∧ v = .str new) := by
  unfold extended
  constructor
  · intro h
    split at h
    · next old new =>
        cases h
        exact ⟨new, rfl, Or.inl ⟨old, rfl, rfl⟩⟩
    · next new =>
        cases h
        exact ⟨new, rfl, Or.inr ⟨Or.inl rfl, rfl⟩⟩
    · next new =>
        cases h
        exact ⟨new, rfl, Or.inr ⟨Or.inr rfl, rfl⟩⟩
    · cases h
  · rintro ⟨new, rfl, ⟨old, rfl, rfl⟩ | ⟨rfl | rfl, rfl⟩⟩ <;> rfl

/-- Only `set` is also the operation of a modification that names none. -/
theorem operation_of_getD {operation : Option ModifyOperation}
    {op : ModifyOperation} (h : operation.getD .set = op) (hne : op ≠ .set) :
    operation = some op := by
  cases operation with
  | none => exact absurd h.symm hne
  | some other => exact congrArg some h

/-- A replacement that is left out is as empty as one that is no text. -/
theorem str?_getD_null (value : Option Json) :
    (value.getD .null).str?.getD "" = (value.bind Json.str?).getD "" := by
  cases value <;> rfl

/-- A value that is left out counts as null, so one that counts as a text is there. -/
theorem value_getD_eq_str_iff (value : Option Json) (text : String) :
    value.getD .null = .str text ↔ value = some (.str text) := by
  cases value with
  | none => exact ⟨nofun, nofun⟩
  | some v => exact (Option.some_inj).symm

/-- What adding a text to a field comes to is listed, if the addition to a text is:
to a field without a value, text is added alike at both ends. -/
theorem modifies_of_extended {a : Action} {join : String → String → String}
    {current : Option Json} {v : Json}
    (hop : a.operation = some .append ∨ a.operation = some .prepend)
    (hjoin : ∀ old new, a.value = some (.str new) →
      Modifies a (some (.str old)) (.str (join old new)))
    (h : extended join current (a.value.getD .null) = some v) :
    Modifies a current v := by
  obtain ⟨new, hvalue, hcases⟩ := (extended_eq_some_iff _ _ _ _).mp h
  have hvalue := (value_getD_eq_str_iff _ _).mp hvalue
  rcases hcases with ⟨old, rfl, rfl⟩ | ⟨hcurrent, rfl⟩
  · exact hjoin old new hvalue
  · exact .start hop hvalue hcurrent

/-- Everything that a modification can come to is listed. -/
theorem modifies_of_modified {a : Action} {current : Option Json} {v : Json}
    (h : modified a current = .ok (some v)) : Modifies a current v := by
  unfold modified at h
  dsimp only at h
  split at h
  · next hop =>
      cases h
      exact .set hop
  · next hop =>
      have hop : a.operation = some .append := operation_of_getD hop nofun
      exact modifies_of_extended (Or.inl hop) (fun _ _ => .append hop)
        (Except.ok.inj h)
  · next hop =>
      have hop : a.operation = some .prepend := operation_of_getD hop nofun
      exact modifies_of_extended (Or.inr hop) (fun _ _ => .prepend hop)
        (Except.ok.inj h)
  · next hop =>
      have hop : a.operation = some .replace := operation_of_getD hop nofun
      split at h
      · cases h
      · next pattern hpattern =>
          split at h
          · cases h
          · next regex hregex =>
              split at h
              · next old =>
                  cases h
                  rw [str?_getD_null]
                  exact .replace hop hpattern hregex
              · cases h

/-- The value that the operation of a modification gives is the listed one. -/
theorem modified_eq_some_iff (a : Action) (current : Option Json) (v : Json) :
    modified a current = .ok (some v) ↔ Modifies a current v := by
  refine ⟨modifies_of_modified, ?_⟩
  intro h
  unfold modified
  dsimp only
  cases h with
  | set hop => rw [hop]
  | append hop hvalue => rw [hop, hvalue]; rfl
  | prepend hop hvalue => rw [hop, hvalue]; rfl
  | start hop hvalue hcurrent =>
      rcases hop with hop | hop <;> rcases hcurrent with rfl | rfl <;>
        rw [hop, hvalue] <;> rfl
  | replace hop hpattern hregex =>
      rw [hop, hpattern, ← str?_getD_null]
      dsimp only [Option.getD_some]
      rw [hregex]

/-- A modification sets the field that it names to the listed value, and nothing
if there is none. -/
theorem fieldsSet_modify_iff {a : Action} (hkind : a.kind = .modify) (o : Occasion)
    (input : Fields) :
    (fieldsSet o a input = []
        ∨ ∃ name v, fieldsSet o a input = [(name, v)])
      ∧ ∀ name v, fieldsSet o a input = [(name, v)]
        ↔ a.field = some name ∧ name ≠ ""
          ∧ Modifies a (Fields.get? input name) v := by
  have hfield (name : String) :
      a.field.filter (· ≠ "") = some name ↔ a.field = some name ∧ name ≠ "" := by
    rw [Option.filter_eq_some_iff, decide_eq_true_eq]
  unfold fieldsSet
  rw [hkind]
  dsimp only
  cases hnamed : a.field.filter (· ≠ "") with
  | none =>
      refine ⟨Or.inl rfl, fun name v => ⟨nofun, ?_⟩⟩
      rintro ⟨hname, hne, -⟩
      rw [(hfield name).mpr ⟨hname, hne⟩] at hnamed
      cases hnamed
  | some name =>
      obtain ⟨hname, hne⟩ := (hfield name).mp hnamed
      have hlisted (other : String) (v : Json) :
          (a.field = some other ∧ other ≠ ""
              ∧ Modifies a (Fields.get? input other) v)
            ↔ other = name
              ∧ modified a (Fields.get? input name) = .ok (some v) := by
        rw [hname, modified_eq_some_iff]
        constructor
        · rintro ⟨⟨⟩, -, hmodifies⟩
          exact ⟨rfl, hmodifies⟩
        · rintro ⟨rfl, hmodifies⟩
          exact ⟨rfl, hne, hmodifies⟩
      simp only [hlisted]
      cases modified a (Fields.get? input name) with
      | error fault => exact ⟨Or.inl rfl, fun _ _ => ⟨nofun, nofun⟩⟩
      | ok result =>
          cases result with
          | none => exact ⟨Or.inl rfl, fun _ _ => ⟨nofun, nofun⟩⟩
          | some value =>
              refine ⟨Or.inr ⟨name, value, rfl⟩, fun other v => ⟨?_, ?_⟩⟩
              · rintro ⟨⟩
                exact ⟨rfl, rfl⟩
              · rintro ⟨rfl, ⟨⟩⟩
                rfl

end Contribution

-- ============================================================= transformations

/-- A transformation is answered with an object. -/
inductive Transforms (o : Occasion) (payload : Fields) (a : Action) : Prop where
  /-- A callable returns it in time. -/
  | returned {name : String} (hkind : a.kind = .transform)
      (hname : a.entrypoint = some name)
      (hcall : o.entrypoints.invoke name (.obj o.view)
        (o.settings.timeoutFor a.timeoutMs) = .ok (.obj payload))
  /-- A program that ends well and in time prints text of it, which fits into the
  limit of the output, whatever the program says on standard error. -/
  | printed {request : ProcessRequest} {elapsedMs : Nat} {text : String}
      {errors : List UInt8} (hkind : a.kind = .transform)
      (hname : a.entrypoint = none)
      (hrequest : Process.request o a .json = .ok request)
      (hvalid : Process.isValid request = true)
      (hrun : o.runner request
        = .ok ⟨elapsedMs, .exited 0, Text.bytes text, errors⟩)
      (htime : overruns (o.settings.timeoutFor a.timeoutMs) elapsedMs = false)
      (hsize : text.utf8ByteSize ≤ o.settings.maxOutputBytes)
      (htext : HoldsTextOf text (.obj payload))

/-- There is a request only of an action that names something to run. -/
theorem Process.named_of_request {o : Occasion} {a : Action}
    {standard : StdinMode} {r : ProcessRequest}
    (h : Process.request o a standard = .ok r) :
    (a.command.isSome || a.script.isSome) = true := by
  unfold Process.request Process.commandOf at h
  cases hcommand : a.command with
  | some line => rfl
  | none =>
      cases hscript : a.script with
      | some script => rfl
      | none =>
          rw [hcommand, hscript] at h
          cases h

section Answers

variable {o : Occasion} {payload : Fields} {a : Action}

theorem Transforms.kind (h : Transforms o payload a) : a.kind = .transform := by
  cases h with
  | returned hkind => exact hkind
  | printed hkind => exact hkind

/-- The answer that the action gets is the object. Fractions of it can be lost on
the way only if it is printed. -/
theorem Transforms.answer (h : Transforms o payload a) :
    ∃ fs : Fields, Contribution.transformAnswer o a = .ok (.obj fs)
      ∧ (Json.obj fs).SameButFractions (.obj payload)
      ∧ (a.entrypoint.isSome = true → fs = payload) := by
  cases h with
  | returned hkind hname hcall =>
      refine ⟨payload, ?_, rfl, fun _ => rfl⟩
      unfold Contribution.transformAnswer
      rw [hname]
      exact hcall
  | printed hkind hname hrequest hvalid hrun htime hsize htext =>
      obtain ⟨fs, hread, hsame⟩ := htext.read
      refine ⟨fs, ?_, hsame, ?_⟩
      · unfold Contribution.transformAnswer
        rw [hname]
        dsimp only
        rw [if_pos (Process.named_of_request hrequest),
          Process.run_of_text hrequest hvalid hrun htime hsize]
        show Except.ok ((Json.read? _).getD .null) = _
        rw [hread]
        rfl
      · rw [hname]
        exact nofun

/-- What is set is looked up in that answer, whatever the object it is set in. -/
theorem Transforms.fieldsSet_eq (h : Transforms o payload a) :
    ∃ fs : Fields, (Json.obj fs).SameButFractions (.obj payload)
      ∧ (a.entrypoint.isSome = true → fs = payload)
      ∧ ∀ input, Contribution.fieldsSet o a input
        = ((Fields.get? fs "transform_input").bind Json.obj?).getD [] := by
  obtain ⟨fs, hanswer, hsame, hexact⟩ := h.answer
  refine ⟨fs, hsame, hexact, ?_⟩
  intro input
  unfold Contribution.fieldsSet
  rw [h.kind]
  dsimp only
  rw [hanswer]
  rfl

/-- A transformation sets what stands under `transform_input`, in whatever object:
just these fields if a callable returns them, and these up to fractions if a
program prints them. -/
theorem Transforms.fieldsSet (h : Transforms o payload a) {fields : Fields}
    (hfields : Fields.get? payload "transform_input" = some (.obj fields)) :
    ∃ set : Fields, (Json.obj set).SameButFractions (.obj fields)
      ∧ (a.entrypoint.isSome = true → set = fields)
      ∧ ∀ input, Contribution.fieldsSet o a input = set := by
  obtain ⟨fs, hsame, hexact, hset⟩ := h.fieldsSet_eq
  obtain ⟨set, hlook, hsameset⟩ :=
    Json.SameButFractions.object_under hsame.symm hfields
  refine ⟨set, hsameset, ?_, ?_⟩
  · intro hname
    rw [hexact hname, hfields] at hlook
    exact (Json.obj.inj (Option.some.inj hlook)).symm
  · intro input
    rw [hset, hlook]
    rfl

/-- Without an object under that name it sets nothing. -/
theorem Transforms.fieldsSet_of_no_object (h : Transforms o payload a)
    (hnone : ∀ fields,
      Fields.get? payload "transform_input" ≠ some (.obj fields))
    (input : Fields) : Contribution.fieldsSet o a input = [] := by
  obtain ⟨fs, hsame, -, hset⟩ := h.fieldsSet_eq
  rw [hset]
  cases hlook : Fields.get? fs "transform_input" with
  | none => rfl
  | some v =>
      cases v with
      | obj set =>
          obtain ⟨fields, hfields, -⟩ := hsame.object_under hlook
          exact absurd hfields (hnone fields)
      | _ => rfl

end Answers

end HookRules
