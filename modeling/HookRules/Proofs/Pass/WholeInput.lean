/-
The tool input as one object.

# One action

The changed fields of a pass are kept apart from the tool input of the event, and
actions look up a field there first and in the event second. The whole input
(`Event.wholeInput`) is both together. `Contribution.fieldsSet` says what an
action would set in a plain object, with no layer anywhere: a modification at
most its own field, by its operation on the value that the object has there, a
transformation the fields of its answer, and no other action anything.
`contribution_updatedInput` says that this is what an action sets in the layer
when the plain object is the whole input, and so it changes the whole input as it
would change a plain object (`contribution_wholeInput`).

# A pass

A pass that nothing refuses runs the actions of its rules up to the first
terminal one (`upToTerminal`, `actionsOf`). `Engine.fieldsWritten` carries them
out on a plain object. The induction of `throughActions_input` is over the
actions with the start left open: each action finds the object as the one before
left it, in the surroundings that its place gives it.
-/
import HookRules.Proofs.Contribution.Calm
import HookRules.Proofs.Json.Overlay
import HookRules.Proofs.Pass.Course

namespace HookRules

/-- The fields of the tool input; an input that is no object has none. -/
def Event.inputFields (e : Event) : Fields :=
  (e.toolInput?.bind Json.obj?).getD []

/-- The tool input with what was changed in it. -/
def Event.wholeInput (e : Event) (changed : Fields) : Fields :=
  Fields.overlay e.inputFields changed

namespace Contribution

-- =========================================================== plain objects

/-- The fields that an action sets in an object. -/
def fieldsSet (o : Occasion) (a : Action) (input : Fields) :
    List (String × Json) :=
  match a.kind with
  | .modify =>
    match a.field.filter (· ≠ "") with
    | none => []
    | some name =>
      match modified a (Fields.get? input name) with
      | .ok (some value) => [(name, value)]
      | _ => []
  | .transform =>
    match transformAnswer o a with
    | .ok answer => ((answer.get? "transform_input").bind Json.obj?).getD []
    | .error _ => []
  | _ => []

/-- The value that an action finds under a name is the one of the whole input. -/
theorem currentValue_eq {changed : Fields} (h : changed.Ascending)
    (o : Occasion) (name : String) :
    currentValue o changed name
      = Fields.get? (o.context.event.wholeInput changed) name := by
  unfold currentValue Event.wholeInput Event.inputFields
  rw [Fields.get?_overlay, h.last?_eq]
  congr 1
  cases o.context.event.toolInput? with
  | none => rfl
  | some input => cases input <;> rfl

-- ========================================================= what actions set

/-- Effects that set no field change no input. -/
theorem leavesInput_updatedInput {c : Contribution} (h : c.LeavesInput)
    (acc : Accumulator) :
    (acc.applyAll c.effects).updatedInput = acc.updatedInput := by
  suffices key : ∀ effects : List Effect,
      (∀ name value, Effect.field name value ∉ effects) →
      ∀ acc : Accumulator, (acc.applyAll effects).updatedInput
        = acc.updatedInput from key c.effects h acc
  intro effects
  induction effects with
  | nil => exact fun _ _ => rfl
  | cons e rest ih =>
      intro hnone acc
      have hrest := ih (fun name value hmem =>
        hnone name value (List.mem_cons_of_mem _ hmem)) (acc.apply e)
      refine hrest.trans ?_
      cases e with
      | field name value =>
          exact absurd (List.mem_cons_self ..) (hnone name value)
      | _ => rfl

/-- Effects that set fields do so one after the other. -/
theorem applyAll_fields (acc : Accumulator) (fs : List (String × Json)) :
    (acc.applyAll (fs.map fun (name, value) => .field name value)).updatedInput
      = Fields.overlay acc.updatedInput fs := by
  induction fs generalizing acc with
  | nil => rfl
  | cons f rest ih => exact ih (acc.apply (.field f.1 f.2))

theorem shell_leavesInput (o : Occasion) (a : Action) :
    (shell o a).LeavesInput := by
  unfold shell
  cases Process.run o a .none with
  | error fault => exact fail_leavesInput fault
  | ok output =>
      refine andThen_leavesInput (route_calm o _ _ _).leavesInput ?_
      split
      · exact (answer_calm o a _).leavesInput
      · exact fail_leavesInput _
      · exact fail_leavesInput _

/-- A modification sets at most its own field. -/
theorem modify_updatedInput {o : Occasion} {a : Action} {acc : Accumulator}
    (hmutates : o.kind.mutatesInput = true) (hkind : a.kind = .modify)
    (hasc : acc.updatedInput.Ascending) :
    (acc.applyAll (modify o acc.updatedInput a).effects).updatedInput
      = Fields.overlay acc.updatedInput
          (fieldsSet o a (o.context.event.wholeInput acc.updatedInput)) := by
  unfold modify fieldsSet
  rw [if_pos hmutates, hkind]
  dsimp only
  cases a.field.filter (· ≠ "") with
  | none => rfl
  | some name =>
      dsimp only
      rw [currentValue_eq hasc]
      cases modified a _ with
      | error fault => rfl
      | ok value => cases value <;> rfl

theorem mergeAnswer_updatedInput (acc : Accumulator) (answer : Json) :
    (acc.applyAll (mergeAnswer answer).effects).updatedInput
      = Fields.overlay acc.updatedInput
          (((answer.get? "transform_input").bind Json.obj?).getD []) := by
  unfold mergeAnswer
  cases answer.get? "transform_input" with
  | none => rfl
  | some v =>
      cases v with
      | obj fields => exact applyAll_fields acc fields
      | _ => rfl

/-- A transformation sets the fields of its answer. -/
theorem transform_updatedInput {o : Occasion} {a : Action}
    (hmutates : o.kind.mutatesInput = true) (hkind : a.kind = .transform)
    (acc : Accumulator) (input : Fields) :
    (acc.applyAll (transform o a).effects).updatedInput
      = Fields.overlay acc.updatedInput (fieldsSet o a input) := by
  unfold transform fieldsSet
  rw [if_pos hmutates, hkind]
  dsimp only
  cases transformAnswer o a with
  | error fault => rfl
  | ok answer => exact mergeAnswer_updatedInput acc answer

/-- No other action sets anything. -/
theorem fieldsSet_of_other {a : Action} (hmodify : a.kind ≠ .modify)
    (htransform : a.kind ≠ .transform) (o : Occasion) (input : Fields) :
    fieldsSet o a input = [] := by
  unfold fieldsSet
  split
  · next h => exact absurd h hmodify
  · next h => exact absurd h htransform
  · rfl

end Contribution

open Contribution (fieldsSet)

/-- An action that changes no input sets no field. -/
theorem contribution_leavesInput (o : Occasion) (updated : Fields) {a : Action}
    (hmodify : a.kind ≠ .modify) (htransform : a.kind ≠ .transform) :
    (contribution o updated a).LeavesInput := by
  by_cases hshell : a.kind = .shell
  · unfold contribution
    simp only [hshell]
    exact Contribution.shell_leavesInput o a
  · rcases contribution_calm_or_fails o updated hshell hmodify htransform with
      hcalm | ⟨fault, hfail⟩
    · exact hcalm.leavesInput
    · rw [hfail]
      exact Contribution.fail_leavesInput fault

/-- An action sets in the layer what it would set in the whole input. -/
theorem contribution_updatedInput {o : Occasion} {acc : Accumulator}
    (hmutates : o.kind.mutatesInput = true) (hasc : acc.updatedInput.Ascending)
    (a : Action) :
    (acc.applyAll (contribution o acc.updatedInput a).effects).updatedInput
      = Fields.overlay acc.updatedInput
          (fieldsSet o a (o.context.event.wholeInput acc.updatedInput)) := by
  by_cases hmodify : a.kind = .modify
  · unfold contribution
    simp only [hmodify]
    exact Contribution.modify_updatedInput hmutates hmodify hasc
  · by_cases htransform : a.kind = .transform
    · unfold contribution
      simp only [htransform]
      exact Contribution.transform_updatedInput hmutates htransform acc _
    · rw [Contribution.leavesInput_updatedInput
          (contribution_leavesInput o acc.updatedInput hmodify htransform),
        Contribution.fieldsSet_of_other hmodify htransform]
      rfl

/-- An action changes the whole input as it would change a plain object, and the
layer keeps its order. -/
theorem contribution_wholeInput {o : Occasion} {acc : Accumulator}
    (hmutates : o.kind.mutatesInput = true) (hasc : acc.updatedInput.Ascending)
    (a : Action) :
    let whole := o.context.event.wholeInput acc.updatedInput
    let after := acc.applyAll (contribution o acc.updatedInput a).effects
    after.updatedInput.Ascending
      ∧ o.context.event.wholeInput after.updatedInput
        = Fields.overlay whole (fieldsSet o a whole) := by
  intro whole after
  have hafter : after.updatedInput
      = Fields.overlay acc.updatedInput (fieldsSet o a whole) :=
    contribution_updatedInput hmutates hasc a
  rw [hafter]
  exact ⟨hasc.overlay _, Fields.overlay_overlay _ hasc _⟩

-- ==================================================== the actions that run

/-- Rules up to the first terminal one, which is the last. -/
def upToTerminal : List Selected → List Selected
  | [] => []
  | s :: rest => if s.rule.terminal then [s] else s :: upToTerminal rest

/-- The actions of rules, each with its rule, in the order of running. -/
def actionsOf (rules : List Selected) : List (Rule × Action) :=
  rules.flatMap fun s => s.rule.actions.map fun a => (s.rule, a)

/-- Where actions lead if all of them run. -/
def Progress.throughActions (act : Rule → Progress → Action → Contribution)
    (p : Progress) (actions : List (Rule × Action)) : Progress :=
  actions.foldl (fun p x => p.add (act x.1 p x.2)) p

/-- Rules that all run lead where their actions lead. -/
theorem Progress.throughRules_eq (act : Rule → Progress → Action → Contribution)
    (p : Progress) (rules : List Selected) :
    p.throughRules act rules = p.throughActions act (actionsOf rules) := by
  induction rules generalizing p with
  | nil => rfl
  | cons s rest ih =>
      unfold Progress.throughActions actionsOf
      rw [List.flatMap_cons, List.foldl_append, List.foldl_map]
      exact ih _

/-- Without a refusal the rules that run to their end are those up to the first
terminal one. -/
theorem Course.ended_eq {act : Rule → Progress → Action → Contribution}
    {p : Progress} {ended left : List Selected} {run : PassRun}
    (h : Course act p ended none left run) :
    upToTerminal (ended ++ left) = ended := by
  have hlast : ∀ before s after, ended = before ++ s :: after →
      s.rule.terminal = true → after = [] :=
    fun before s after hsplit hterm => (h.last before s after hsplit hterm).1
  have hstops : left ≠ [] → ∃ s ∈ ended, s.rule.terminal = true := by
    intro hleft
    rcases h.stops hleft with hsome | hterm
    · cases hsome
    · exact hterm
  clear h
  induction ended with
  | nil =>
      cases left with
      | nil => rfl
      | cons s rest =>
          obtain ⟨t, ht, -⟩ := hstops (List.cons_ne_nil s rest)
          cases ht
  | cons s ended ih =>
      rw [List.cons_append, upToTerminal]
      cases hterm : s.rule.terminal with
      | true =>
          rw [if_pos rfl, hlast [] s ended rfl hterm]
      | false =>
          rw [if_neg Bool.false_ne_true, ih]
          · intro before t after hsplit
            exact hlast (s :: before) t after (by rw [hsplit]; rfl)
          · intro hleft
            obtain ⟨t, ht, htt⟩ := hstops hleft
            rcases List.mem_cons.mp ht with rfl | ht
            · rw [hterm] at htt
              cases htt
            · exact ⟨t, ht, htt⟩

-- ============================================================ a whole pass

/-- The fields that actions set in an object, one action after the other: each
finds the object as those before it left it, in the surroundings of its place. -/
def Engine.fieldsWritten (e : Engine) (world : World) (c : Context)
    (view : Fields) : Nat → List (Rule × Action) → Fields → List (String × Json)
  | _, [], _ => []
  | place, (r, a) :: rest, input =>
    let fields := fieldsSet (e.occasion (world place) c view r) a input
    fields ++ e.fieldsWritten world c view (place + 1) rest
      (Fields.overlay input fields)

/-- An object after actions, one after the other. -/
def Engine.inputAfter (e : Engine) (world : World) (c : Context) (view : Fields)
    (place : Nat) (actions : List (Rule × Action)) (input : Fields) : Fields :=
  (actions.zipIdx place).foldl (fun input x =>
    Fields.overlay input
      (fieldsSet (e.occasion (world x.2) c view x.1.1) x.1.2 input)) input

/-- An object after actions has the fields that they set laid over it. -/
theorem Engine.inputAfter_eq (e : Engine) (world : World) (c : Context)
    (view : Fields) (place : Nat) (actions : List (Rule × Action))
    (input : Fields) :
    e.inputAfter world c view place actions input
      = Fields.overlay input
          (e.fieldsWritten world c view place actions input) := by
  induction actions generalizing place input with
  | nil => rfl
  | cons x rest ih =>
      rw [Engine.fieldsWritten, Fields.overlay_append]
      exact ih (place + 1) _

/-- What actions that all run set in the layer. -/
theorem throughActions_input (e : Engine) (world : World) {c : Context}
    (hmutates : c.kind.mutatesInput = true) (view : Fields) (p : Progress)
    (hasc : p.accumulator.updatedInput.Ascending)
    (actions : List (Rule × Action)) :
    (p.throughActions (e.act world c view) actions).accumulator.updatedInput
      = Fields.overlay p.accumulator.updatedInput
          (e.fieldsWritten world c view p.steps actions
            (c.event.wholeInput p.accumulator.updatedInput)) := by
  induction actions generalizing p with
  | nil => rfl
  | cons x rest ih =>
      obtain ⟨r, a⟩ := x
      have hstep : (p.add (e.act world c view r p a)).accumulator.updatedInput
          = Fields.overlay p.accumulator.updatedInput
              (fieldsSet (e.occasion (world p.steps) c view r) a
                (c.event.wholeInput p.accumulator.updatedInput)) :=
        contribution_updatedInput (o := e.occasion (world p.steps) c view r)
          hmutates hasc a
      have hrest := ih (p.add (e.act world c view r p a))
        (hstep ▸ hasc.overlay _)
      rw [Engine.fieldsWritten, Fields.overlay_append, ← hstep]
      refine hrest.trans ?_
      rw [hstep]
      unfold Event.wholeInput
      rw [Fields.overlay_overlay _ hasc]
      rfl

/-- What a pass that nothing refuses sets in the layer. -/
theorem Engine.runIn_input (e : Engine) (world : World) {c : Context}
    (hmutates : c.kind.mutatesInput = true) (view : Fields) (p : Progress)
    (hasc : p.accumulator.updatedInput.Ascending) {selected : List Selected}
    (hblock : (e.runIn world c view p selected).block = none) :
    (e.runIn world c view p selected).progress.accumulator.updatedInput
      = Fields.overlay p.accumulator.updatedInput
          (e.fieldsWritten world c view p.steps
            (actionsOf (upToTerminal selected))
            (c.event.wholeInput p.accumulator.updatedInput)) := by
  obtain ⟨ended, refused, left, hsel, hcourse⟩ :=
    runRules_course (e.act world c view) p selected
  cases refused with
  | some s =>
      obtain ⟨-, -, -, reason, -, -, -, hsome, -⟩ := hcourse.blocked s rfl
      exact absurd (hblock.symm.trans hsome) nofun
  | none =>
      have hended : upToTerminal selected = ended := by
        rw [hsel, Option.toList_none, List.append_nil]
        exact hcourse.ended_eq
      have hprogress : (e.runIn world c view p selected).progress
          = p.throughActions (e.act world c view) (actionsOf ended) := by
        rw [← Progress.throughRules_eq]
        exact (hcourse.unblocked rfl).2.1
      rw [hprogress, hended]
      exact throughActions_input e world hmutates view p hasc _

/-- The whole input after a pass that nothing refuses is the one before it with
the actions of the pass carried out one after the other. -/
theorem Engine.runIn_wholeInput (e : Engine) (world : World) {c : Context}
    (hmutates : c.kind.mutatesInput = true) (view : Fields) (p : Progress)
    (hasc : p.accumulator.updatedInput.Ascending) {selected : List Selected}
    (hblock : (e.runIn world c view p selected).block = none) :
    c.event.wholeInput
        (e.runIn world c view p selected).progress.accumulator.updatedInput
      = e.inputAfter world c view p.steps (actionsOf (upToTerminal selected))
          (c.event.wholeInput p.accumulator.updatedInput) := by
  rw [e.runIn_input world hmutates view p hasc hblock, Engine.inputAfter_eq]
  exact Fields.overlay_overlay _ hasc _

end HookRules
