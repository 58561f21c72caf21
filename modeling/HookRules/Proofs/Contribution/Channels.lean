/-
The channels that contributions write to.

The kind of an event decides which channels its accumulator has: a permission
decision, the answer to a request, further context, a changed input. A mild
effect (`Effect.Mild`) goes to a channel that the event has and refuses nothing.
`WritesFor` says of effects that they are all mild and that, if there is a
refusal, one that records it on the channel of the event follows as the last.

Every contribution writes so for the way in which it ends
(`contribution_keepsTo`). The proof goes by the constructions that contributions
are made of, one lemma each: an effect, a log entry, a failure, a grant, a
refusal, one contribution after another. Directives of automations reach the
same channels as actions do, and by the same constructions.
-/
import HookRules.Contribution.Run

namespace HookRules

-- ============================================================ capabilities

/-- Only a tool call that is to come has a permission to be decided. -/
theorem EventKind.decidesPermission_iff (k : EventKind) :
    k.decidesPermission = true ↔ k = .preToolUse := by
  cases k <;> decide

/-- Only a request for a permission is answered. -/
theorem EventKind.answersRequest_iff (k : EventKind) :
    k.answersRequest = true ↔ k = .permissionRequest := by
  cases k <;> decide

-- ================================================================ effects

/-- An effect on a channel that events of a kind have, and no refusal. A mild
permission is an allowance: the only way to refuse is the record that
`WritesFor` puts last. -/
def Effect.Mild (k : EventKind) : Effect → Prop
  | .permission decision _ => k = .preToolUse ∧ decision = .allow
  | .answer decision => k = .permissionRequest ∧ decision = .allowed
  | .message _ => True
  | .context _ => k.injectsContext = true
  | .field _ _ => k.mutatesInput = true

/-- Effects that are mild up to the one that records a refusal, which is the
last one if there is a refusal. -/
inductive WritesFor (k : EventKind) : List Effect → Option String → Prop where
  | mild {writes : List Effect} (h : ∀ e ∈ writes, e.Mild k) :
      WritesFor k writes none
  | refusal {writes : List Effect} (h : ∀ e ∈ writes, e.Mild k)
      (reason : String) (interrupt : Bool) :
      WritesFor k (writes ++ Contribution.refusalEffects k reason interrupt)
        (some reason)

/-- Without a refusal all effects are mild, so nothing in them has to be looked
for. -/
theorem WritesFor.all_mild {k : EventKind} {writes : List Effect}
    (h : WritesFor k writes none) : ∀ e ∈ writes, e.Mild k := by
  cases h with
  | mild h => exact h

/-- With a refusal its record comes after mild effects. -/
theorem WritesFor.refusal_last {k : EventKind} {writes : List Effect}
    {reason : String} (h : WritesFor k writes (some reason)) :
    ∃ mild interrupt, (∀ e ∈ mild, Effect.Mild k e)
      ∧ writes = mild ++ Contribution.refusalEffects k reason interrupt := by
  cases h with
  | refusal h reason interrupt => exact ⟨_, interrupt, h, rfl⟩

/-- Nothing is written. A contribution that does nothing, logs or fails is of
this kind. -/
theorem WritesFor.nil (k : EventKind) : WritesFor k [] none := by
  refine .mild ?_
  intro e he
  cases he

/-- Mild effects can come before any others. The first ones must not refuse: a
record of a refusal in the middle would not be the last thing written. -/
theorem WritesFor.append {k : EventKind} {first later : List Effect}
    {refusal : Option String} (hfirst : WritesFor k first none)
    (hlater : WritesFor k later refusal) :
    WritesFor k (first ++ later) refusal := by
  have happ : ∀ {writes : List Effect}, (∀ e ∈ writes, e.Mild k) →
      ∀ e ∈ first ++ writes, e.Mild k := by
    intro writes hwrites e he
    rcases List.mem_append.mp he with h | h
    · exact hfirst.all_mild e h
    · exact hwrites e h
  cases hlater with
  | mild h => exact .mild (happ h)
  | refusal h reason interrupt =>
      rw [← List.append_assoc]
      exact .refusal (happ h) reason interrupt

namespace Contribution

/-- A contribution that writes to the channels of a kind as it ends. -/
def KeepsTo (k : EventKind) (c : Contribution) : Prop :=
  WritesFor k c.effects c.ending.refusal?

variable {k : EventKind}

-- =========================================================== constructions

/-- To do nothing is allowed on every event. -/
theorem nothing_keepsTo : nothing.KeepsTo k := WritesFor.nil k

/-- One effect keeps to the channels of a kind if it is mild for it. -/
theorem effect_keepsTo {e : Effect} (h : e.Mild k) : (effect e).KeepsTo k := by
  refine .mild ?_
  intro e' he'
  rw [List.mem_singleton.mp he']
  exact h

/-- A log entry is no effect, so every event has room for it. -/
theorem entry_keepsTo (l : LogEntry) : (entry l).KeepsTo k := WritesFor.nil k

/-- A failure has written nothing. -/
theorem fail_keepsTo (fault : ActionFault) : (fail fault).KeepsTo k :=
  WritesFor.nil k

/-- One contribution after another keeps to the channels if both do: if the
first one refuses or fails, it stands alone, and else its effects are mild and
come before those of the second. -/
theorem andThen_keepsTo {c d : Contribution} (hc : c.KeepsTo k)
    (hd : d.KeepsTo k) : (c.andThen d).KeepsTo k := by
  unfold andThen
  cases hend : c.ending with
  | done =>
      unfold KeepsTo at hc
      rw [hend] at hc
      exact WritesFor.append hc hd
  | blocked reason => exact hc
  | failed fault => exact hc

/-- A result that may be missing keeps to the channels if every use of it does. -/
theorem ofResult_keepsTo {α : Type} {result : Except ActionFault α}
    {use : α → Contribution} (h : ∀ a, (use a).KeepsTo k) :
    (ofResult result use).KeepsTo k := by
  cases result with
  | ok a => exact h a
  | error fault => exact fail_keepsTo fault

/-- A grant goes to the permission channel that the event has, and on events
that have neither it writes nothing. -/
theorem grant_keepsTo (o : Occasion) (reason : Option String) :
    (grant o reason).KeepsTo o.kind := by
  refine .mild ?_
  intro e he
  unfold grant grantEffects at he
  dsimp only at he
  split at he
  · next h =>
      rw [List.mem_singleton.mp he]
      exact ⟨(EventKind.decidesPermission_iff _).mp h, rfl⟩
  · split at he
    · next h =>
        rw [List.mem_singleton.mp he]
        exact ⟨(EventKind.answersRequest_iff _).mp h, rfl⟩
    · cases he

/-- A refusal records itself and nothing besides. That the record is on the
channel of the event is how `refusalEffects` is defined; here it only has to be
the last. -/
theorem refuse_keepsTo (o : Occasion) (reason : String) (interrupt : Bool) :
    (refuse o reason interrupt).KeepsTo o.kind := by
  exact .refusal (WritesFor.nil o.kind).all_mild reason interrupt

-- ================================================================= actions

/-- Context is added only on events that take it, since the action asks first. -/
theorem inject_keepsTo (o : Occasion) (a : Action) :
    (inject o a).KeepsTo o.kind := by
  unfold inject
  split
  · next h =>
      cases a.injectedText with
      | some content => exact effect_keepsTo h
      | none => exact fail_keepsTo _
  · exact nothing_keepsTo

/-- Text of an automation goes to the log or becomes a message, which every
event has. -/
theorem route_keepsTo (o : Occasion) (mode : OutputMode) (stream : Stream)
    (text : String) : (route o mode stream text).KeepsTo k := by
  unfold route
  dsimp only
  split
  · exact nothing_keepsTo
  · cases mode with
    | ignore => exact nothing_keepsTo
    | log => exact entry_keepsTo _
    | appendToStdout => exact effect_keepsTo trivial

/-- The context of a directive goes where the context of actions goes: both ask
the event in the same way. -/
theorem injectDirective_keepsTo (o : Occasion) (payload : Fields) :
    (injectDirective o payload).KeepsTo o.kind := by
  unfold injectDirective
  split
  · split
    · next h => exact effect_keepsTo h
    · exact nothing_keepsTo
  · exact nothing_keepsTo

/-- A warning is a message, which every event has. -/
theorem warnDirective_keepsTo (payload : Fields) :
    (warnDirective payload).KeepsTo k := by
  unfold warnDirective
  split
  · exact effect_keepsTo trivial
  · exact nothing_keepsTo

/-- The decision of an automation refuses or grants as an action does. -/
theorem decision_keepsTo (o : Occasion) (a : Action) (payload : Fields) :
    (decision o a payload).KeepsTo o.kind := by
  unfold decision
  split
  · exact refuse_keepsTo o _ a.interrupt
  · split
    · exact grant_keepsTo o none
    · exact nothing_keepsTo

/-- A whole object of directives keeps to the channels, because the decision,
which alone may refuse, comes last. -/
theorem directives_keepsTo (o : Occasion) (a : Action) (payload : Fields) :
    (directives o a payload).KeepsTo o.kind :=
  andThen_keepsTo (injectDirective_keepsTo o payload)
    (andThen_keepsTo (warnDirective_keepsTo payload)
      (decision_keepsTo o a payload))

/-- So does a text, as an object of directives or as plain text. -/
theorem answer_keepsTo (o : Occasion) (a : Action) (text : String) :
    (answer o a text).KeepsTo o.kind := by
  unfold answer
  split
  · exact directives_keepsTo o a _
  · exact route_keepsTo o _ _ _

/-- What a program writes to standard error is routed before its status is
looked at, so a program that fails may have left a message, but no refusal. -/
theorem shell_keepsTo (o : Occasion) (a : Action) :
    (shell o a).KeepsTo o.kind := by
  unfold shell
  refine ofResult_keepsTo fun output => andThen_keepsTo ?_ ?_
  · exact route_keepsTo o _ _ _
  -- only a program that succeeded is listened to
  · split
    · exact answer_keepsTo o a _
    · exact fail_keepsTo _
    · exact fail_keepsTo _

/-- A callable answers with directives, with a text, or with a value that says
nothing. -/
theorem call_keepsTo (o : Occasion) (a : Action) :
    (call o a).KeepsTo o.kind := by
  unfold call
  split
  · exact fail_keepsTo _
  · refine ofResult_keepsTo fun v => ?_
    cases v with
    | obj payload => exact directives_keepsTo o a payload
    | str text => exact answer_keepsTo o a text
    | null => exact nothing_keepsTo
    | bool b => exact nothing_keepsTo
    | num n => exact nothing_keepsTo
    | arr items => exact nothing_keepsTo

/-- A modification writes a field only on events whose input can be changed. -/
theorem modify_keepsTo (o : Occasion) (updated : Fields) (a : Action) :
    (modify o updated a).KeepsTo o.kind := by
  unfold modify
  split
  · next h =>
      cases a.field.filter (· ≠ "") with
      | none => exact fail_keepsTo _
      | some name =>
          dsimp only
          cases modified a (currentValue o updated name) with
          | error fault => exact fail_keepsTo _
          | ok value =>
              cases value with
              | some v => exact effect_keepsTo h
              | none => exact nothing_keepsTo
  · exact nothing_keepsTo

/-- The fields of a transformation are all changes of the input. -/
theorem mergeAnswer_keepsTo (v : Json) (h : k.mutatesInput = true) :
    (mergeAnswer v).KeepsTo k := by
  unfold mergeAnswer
  split
  · refine .mild ?_
    intro e he
    obtain ⟨f, -, rfl⟩ := List.mem_map.mp he
    exact h
  · exact nothing_keepsTo

/-- A transformation asks the event as a modification does, before it runs
anything. -/
theorem transform_keepsTo (o : Occasion) (a : Action) :
    (transform o a).KeepsTo o.kind := by
  unfold transform
  split
  · next h => exact ofResult_keepsTo fun v => mergeAnswer_keepsTo v h
  · exact nothing_keepsTo

end Contribution

/-- Every action writes to the channels of its event only, and records a refusal
exactly when it ends in one, as the last thing that it does. -/
theorem contribution_keepsTo (o : Occasion) (updated : Fields) (a : Action) :
    (contribution o updated a).KeepsTo o.kind := by
  unfold contribution
  cases a.kind with
  | deny => exact Contribution.refuse_keepsTo o _ a.interrupt
  | allow => exact Contribution.grant_keepsTo o _
  | warn => exact Contribution.effect_keepsTo trivial
  | suggest => exact Contribution.inject_keepsTo o a
  | inject => exact Contribution.inject_keepsTo o a
  | modify => exact Contribution.modify_keepsTo o updated a
  | transform => exact Contribution.transform_keepsTo o a
  | log => exact Contribution.entry_keepsTo _
  | shell => exact Contribution.shell_keepsTo o a
  | callable => exact Contribution.call_keepsTo o a
  | noop => exact Contribution.nothing_keepsTo

end HookRules
