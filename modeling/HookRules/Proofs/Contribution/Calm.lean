/-
What most actions never do.

An automation has answered before its answer is carried out, so carrying it out
does not fail any more, and no directive changes the tool input. A contribution
of which both is true is `Calm`. Constructions that are calm make calm ones
(`andThen_calm`), so that directives and plain text are (`directives_calm`,
`answer_calm`). What adds context and what changes the input refuses nothing.

An action that runs no program and changes no input is calm, or it is a failure
and nothing else (`contribution_calm_or_fails`).
-/
import HookRules.Contribution.Run

namespace HookRules

namespace Contribution

/-- A contribution that sets no field of the tool input. -/
def LeavesInput (c : Contribution) : Prop :=
  ∀ name value, Effect.field name value ∉ c.effects

/-- A contribution that does not fail and sets no field of the tool input. What
an automation has answered is carried out calmly, so a fault comes from the
running of it and never from its answer. -/
structure Calm (c : Contribution) : Prop where
  certain : ∀ fault, c.ending ≠ .failed fault
  leavesInput : c.LeavesInput

-- =========================================================== constructions

/-- A contribution without effects sets nothing. Log entries and failures are
of this kind, whatever else they hold. -/
theorem leavesInput_of_nil {c : Contribution} (h : c.effects = []) :
    c.LeavesInput := by
  intro name value hmem
  rw [h] at hmem
  cases hmem

theorem fail_leavesInput (fault : ActionFault) : (fail fault).LeavesInput :=
  leavesInput_of_nil rfl

/-- One contribution after another leaves the input if both do. That the second
one may not run at all takes effects away and adds none. -/
theorem andThen_leavesInput {c d : Contribution} (hc : c.LeavesInput)
    (hd : d.LeavesInput) : (c.andThen d).LeavesInput := by
  unfold andThen
  cases hend : c.ending with
  | done =>
      intro name value hmem
      rcases List.mem_append.mp hmem with h | h
      · exact hc name value h
      · exact hd name value h
  | blocked reason => exact hc
  | failed fault => exact hc

/-- To do nothing is calm: the outcome of every directive that is not there or
does not apply. -/
theorem nothing_calm : nothing.Calm := ⟨nofun, leavesInput_of_nil rfl⟩

/-- To write to the log is calm, since a log entry is no effect. -/
theorem entry_calm (l : LogEntry) : (entry l).Calm :=
  ⟨nofun, leavesInput_of_nil rfl⟩

/-- Any effect but to set a field is calm. Which one it is does not matter
here, only to `Channels`. -/
theorem effect_calm {e : Effect} (h : ∀ name value, e ≠ .field name value) :
    (effect e).Calm := by
  refine ⟨nofun, ?_⟩
  intro name value hmem
  exact h name value (List.mem_singleton.mp hmem).symm

/-- Calm contributions one after the other are calm together. This carries
calmness from the single directives to a whole answer. -/
theorem andThen_calm {c d : Contribution} (hc : c.Calm) (hd : d.Calm) :
    (c.andThen d).Calm := by
  refine ⟨?_, andThen_leavesInput hc.leavesInput hd.leavesInput⟩
  unfold andThen
  cases hend : c.ending with
  | done => exact hd.certain
  | blocked reason => exact hc.certain
  | failed fault => exact hc.certain

-- ============================================================= permissions

/-- A grant is calm whatever the event is: it writes a permission, an answer to
a request, or nothing at all. -/
theorem grant_calm (o : Occasion) (reason : Option String) :
    (grant o reason).Calm := by
  refine ⟨nofun, ?_⟩
  intro name value
  unfold grant grantEffects
  split
  · simp
  · split <;> simp

/-- So is a refusal. It ends the pass, but as a refusal and not as a failure,
and what it records is no field of the input. -/
theorem refuse_calm (o : Occasion) (reason : String) (interrupt : Bool) :
    (refuse o reason interrupt).Calm := by
  refine ⟨nofun, ?_⟩
  intro name value
  unfold refuse refusalEffects
  split
  · simp
  · split <;> simp

-- ================================================================= answers

/-- Plain text that an automation wrote goes to the log, to the agent, or
nowhere. -/
theorem route_calm (o : Occasion) (mode : OutputMode) (stream : Stream)
    (text : String) : (route o mode stream text).Calm := by
  unfold route
  dsimp only
  split
  · exact nothing_calm
  · cases mode with
    | ignore => exact nothing_calm
    | log => exact entry_calm _
    | appendToStdout => exact effect_calm nofun

/-- An object of directives is carried out calmly: context and a warning come
first, and the decision, which may refuse, is the last. -/
theorem directives_calm (o : Occasion) (a : Action) (payload : Fields) :
    (directives o a payload).Calm := by
  have hinject : (injectDirective o payload).Calm := by
    unfold injectDirective
    split
    · split
      · exact effect_calm nofun
      · exact nothing_calm
    · exact nothing_calm
  have hwarn : (warnDirective payload).Calm := by
    unfold warnDirective
    split
    · exact effect_calm nofun
    · exact nothing_calm
  have hdecision : (decision o a payload).Calm := by
    unfold decision
    split
    · exact refuse_calm o _ a.interrupt
    · split
      · exact grant_calm o none
      · exact nothing_calm
  exact andThen_calm hinject (andThen_calm hwarn hdecision)

/-- So is the text of an answer, whether it is read as directives or passed on. -/
theorem answer_calm (o : Occasion) (a : Action) (text : String) :
    (answer o a text).Calm := by
  unfold answer
  split
  · exact directives_calm o a _
  · exact route_calm o _ _ _

-- ================================================================ refusals

/-- An action that adds context can fail for want of a text, but it refuses
nothing. -/
theorem inject_refusal (o : Occasion) (a : Action) :
    (inject o a).ending.refusal? = none := by
  unfold inject
  split
  · split <;> rfl
  · rfl

/-- A modification can fail for its configuration or leave the field as it is;
it never refuses. -/
theorem modify_refusal (o : Occasion) (updated : Fields) (a : Action) :
    (modify o updated a).ending.refusal? = none := by
  unfold modify
  split
  · split
    · rfl
    · split <;> rfl
  · rfl

/-- A transformation never refuses either, not even with a `deny` in what its
program prints: it reads nothing but `transform_input`. -/
theorem transform_refusal (o : Occasion) (a : Action) :
    (transform o a).ending.refusal? = none := by
  unfold transform
  split
  · cases transformAnswer o a with
    | error fault => rfl
    | ok answer =>
        show (mergeAnswer answer).ending.refusal? = none
        unfold mergeAnswer
        split <;> rfl
  · rfl

-- ================================================================= actions

/-- A result that may be missing is used calmly, or its fault is all there is. -/
theorem ofResult_calm_or_fails {α : Type} {result : Except ActionFault α}
    {use : α → Contribution} (h : ∀ a, (use a).Calm) :
    (ofResult result use).Calm ∨ ∃ fault, ofResult result use = fail fault := by
  cases result with
  | ok a => exact Or.inl (h a)
  | error fault => exact Or.inr ⟨fault, rfl⟩

/-- An action that adds context does so, does nothing, or has no text and
fails. -/
theorem inject_calm_or_fails (o : Occasion) (a : Action) :
    (inject o a).Calm ∨ ∃ fault, inject o a = fail fault := by
  unfold inject
  split
  · cases a.injectedText with
    | some content => exact Or.inl (effect_calm nofun)
    | none => exact Or.inr ⟨_, rfl⟩
  · exact Or.inl nothing_calm

/-- A callable fails before there is an answer, and whatever value it answers
is then used calmly. -/
theorem call_calm_or_fails (o : Occasion) (a : Action) :
    (call o a).Calm ∨ ∃ fault, call o a = fail fault := by
  unfold call
  split
  · exact Or.inr ⟨_, rfl⟩
  · refine ofResult_calm_or_fails fun v => ?_
    cases v with
    | obj payload => exact directives_calm o a payload
    | str text => exact answer_calm o a text
    | null => exact nothing_calm
    | bool b => exact nothing_calm
    | num n => exact nothing_calm
    | arr items => exact nothing_calm

end Contribution

/-- An action that runs no program and changes no input is calm or a failure
and nothing else. Of a program this is not true, since text on its standard
error is passed on before its status is looked at. -/
theorem contribution_calm_or_fails (o : Occasion) (updated : Fields)
    {a : Action} (hshell : a.kind ≠ .shell) (hmodify : a.kind ≠ .modify)
    (htransform : a.kind ≠ .transform) :
    (contribution o updated a).Calm
      ∨ ∃ fault, contribution o updated a = Contribution.fail fault := by
  unfold contribution
  cases hkind : a.kind with
  | deny => exact Or.inl (Contribution.refuse_calm o _ _)
  | allow => exact Or.inl (Contribution.grant_calm o _)
  | warn => exact Or.inl (Contribution.effect_calm nofun)
  | suggest => exact Contribution.inject_calm_or_fails o a
  | inject => exact Contribution.inject_calm_or_fails o a
  | modify => exact absurd hkind hmodify
  | transform => exact absurd hkind htransform
  | log => exact Or.inl (Contribution.entry_calm _)
  | shell => exact absurd hkind hshell
  | callable => exact Contribution.call_calm_or_fails o a
  | noop => exact Or.inl Contribution.nothing_calm

end HookRules
