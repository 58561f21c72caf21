/-
What effects come to.

Effects are carried out one after the other. What a list of them does to an
accumulator is told by one `Writing`: the messages and the context that it adds,
the decisions that it leaves, if it makes any, and the fields that it sets. An
accumulator with a writing on it (`Accumulator.written`) has everything that it
had before: messages and context stay where they are, and a decision or a field
is kept unless another one takes its place. Every list of effects is a writing
(`applyAll_eq_written`), whatever it is applied to.
-/
import HookRules.Output.Accumulator
import HookRules.Proofs.Json.Overlay

namespace HookRules

/-- What is written to an accumulator. -/
structure Writing where
  messages : List String := []
  context : List String := []
  /-- The decision about a tool call with its reason. -/
  permission : Option (PermissionDecision × Option String) := none
  request : Option RequestDecision := none
  fields : List (String × Json) := []

/-- An accumulator with something written on it. -/
def Accumulator.written (acc : Accumulator) (w : Writing) : Accumulator where
  permissionDecision := (w.permission.map (·.1)).or acc.permissionDecision
  permissionReason := w.permission.elim acc.permissionReason (·.2)
  requestDecision := w.request.or acc.requestDecision
  systemMessages := acc.systemMessages ++ w.messages
  contextItems := acc.contextItems ++ w.context
  updatedInput := Fields.overlay acc.updatedInput w.fields

namespace Writing

/-- One writing and then another. -/
def append (v w : Writing) : Writing where
  messages := v.messages ++ w.messages
  context := v.context ++ w.context
  permission := w.permission.or v.permission
  request := w.request.or v.request
  fields := v.fields ++ w.fields

/-- What one effect writes. -/
def ofEffect : Effect → Writing
  | .permission decision reason => { permission := some (decision, reason) }
  | .answer decision => { request := some decision }
  | .message text => { messages := [text] }
  | .context text => { context := [text] }
  | .field name value => { fields := [(name, value)] }

/-- What effects write. -/
def ofEffects (effects : List Effect) : Writing :=
  effects.foldr (fun e w => (ofEffect e).append w) {}

@[simp] theorem ofEffects_cons (e : Effect) (rest : List Effect) :
    ofEffects (e :: rest) = (ofEffect e).append (ofEffects rest) := rfl

/-- Nothing written before something else is no difference. -/
theorem empty_append (w : Writing) : append {} w = w := by
  simp [append]

/-- Writings can be grouped either way, since of two decisions the later one
counts. -/
theorem append_assoc (u v w : Writing) :
    (u.append v).append w = u.append (v.append w) := by
  simp [append, Option.or_assoc]

/-- The effects of two actions one after the other write what both of them
write. By this a pass is one writing. -/
theorem ofEffects_append (first later : List Effect) :
    ofEffects (first ++ later) = (ofEffects first).append (ofEffects later) := by
  induction first with
  | nil => exact (empty_append _).symm
  | cons e rest ih =>
      rw [List.cons_append, ofEffects_cons, ih, ofEffects_cons, append_assoc]

/-- Messages alone add themselves, in their order. -/
theorem ofEffects_message (texts : List String) :
    ofEffects (texts.map .message) = { messages := texts } := by
  induction texts with
  | nil => rfl
  | cons text rest ih => rw [List.map_cons, ofEffects_cons, ih]; rfl

/-- So do pieces of context. -/
theorem ofEffects_context (texts : List String) :
    ofEffects (texts.map .context) = { context := texts } := by
  induction texts with
  | nil => rfl
  | cons text rest ih => rw [List.map_cons, ofEffects_cons, ih]; rfl

end Writing

namespace Accumulator

/-- With nothing written on it an accumulator is as it was. -/
theorem written_empty (acc : Accumulator) : acc.written {} = acc := by
  simp [written, Fields.overlay]

/-- Two writings can be written one after the other. A permission brings its
reason along, so the first reason is gone even where the second decision has
none. -/
theorem written_append (acc : Accumulator) (v w : Writing) :
    acc.written (v.append w) = (acc.written v).written w := by
  obtain ⟨-, -, permission, -, -⟩ := w
  cases permission with
  | none => simp [written, Writing.append, Fields.overlay_append, Option.or_assoc]
  | some p => simp [written, Writing.append, Fields.overlay_append, Option.or_assoc]

/-- One effect does to an accumulator what it writes. -/
theorem apply_eq_written (acc : Accumulator) (e : Effect) :
    acc.apply e = acc.written (Writing.ofEffect e) := by
  cases e <;> simp [apply, written, Writing.ofEffect, Fields.overlay]

/-- Effects write the same on every accumulator. This is why nothing that an
action writes can depend on what was written before it. -/
theorem applyAll_eq_written (acc : Accumulator) (effects : List Effect) :
    acc.applyAll effects = acc.written (Writing.ofEffects effects) := by
  induction effects generalizing acc with
  | nil => exact acc.written_empty.symm
  | cons e rest ih =>
      calc acc.applyAll (e :: rest)
          = (acc.apply e).applyAll rest := rfl
        _ = (acc.apply e).written (Writing.ofEffects rest) := ih _
        _ = (acc.written (Writing.ofEffect e)).written
              (Writing.ofEffects rest) := by rw [apply_eq_written]
        _ = acc.written (Writing.ofEffects (e :: rest)) :=
            (acc.written_append _ _).symm

end Accumulator

end HookRules
