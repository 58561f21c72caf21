/-
What a failed action leaves behind, and what an action looks at.

# Failures

Effects from before a failure count, so a failed action leaves nothing behind
only if it fails before it writes (`Traceless`). All actions do but one: a
program's standard error is sent on before its status is looked at.
`contribution_of_failed` says what that can leave, which is one message and
nothing else (`ShowsError`).

# Rules

An action knows its rule by the id alone (`contribution_of_id`): what a refusal
and a warning say by themselves, what is logged and what a program is told.
-/
import HookRules.Proofs.Contribution.Calm

namespace HookRules

-- ================================================================= failures

namespace Contribution

/-- A contribution that writes nothing if it fails. What it writes if it does
not fail is left open. -/
def Traceless (c : Contribution) : Prop :=
  ∀ fault, c.ending = .failed fault → c.effects = []

/-- What never fails has no failure to leave a trace of. -/
theorem Calm.traceless {c : Contribution} (h : c.Calm) : c.Traceless :=
  fun fault hfault => absurd hfault (h.certain fault)

/-- A failure by itself has no effects. -/
theorem fail_traceless (fault : ActionFault) : (fail fault).Traceless :=
  fun _ _ => rfl

/-- After what is done comes the next contribution. -/
theorem andThen_of_done {c : Contribution} (d : Contribution)
    (h : c.ending = .done) :
    c.andThen d
      = { effects := c.effects ++ d.effects
          logs := c.logs ++ d.logs
          ending := d.ending } := by
  unfold andThen
  rw [h]

/-- Sending text never goes wrong. -/
theorem route_done (o : Occasion) (mode : OutputMode) (stream : Stream)
    (text : String) : (route o mode stream text).ending = .done := by
  unfold route
  dsimp only
  split
  · rfl
  · cases mode <;> rfl

/-- What text leaves on the accumulator: one message, or nothing. -/
theorem route_effects (o : Occasion) (mode : OutputMode) (stream : Stream)
    (text : String) :
    (route o mode stream text).effects = []
      ∨ mode = .appendToStdout ∧ Text.trim text ≠ ""
        ∧ (route o mode stream text).effects = [.message (Text.trim text)] := by
  unfold route
  dsimp only
  split
  · exact Or.inl rfl
  · next hblank =>
      cases mode with
      | ignore => exact Or.inl rfl
      | log => exact Or.inl rfl
      | appendToStdout => exact Or.inr ⟨rfl, hblank, rfl⟩

-- ======================================================= changes of the input

/-- A modification finds its value before it sets the field. -/
theorem modify_traceless (o : Occasion) (updated : Fields) (a : Action) :
    (modify o updated a).Traceless := by
  unfold modify
  split
  · split
    · exact fail_traceless _
    · split
      · exact fail_traceless _
      · exact fun _ => nofun
      · exact nothing_calm.traceless
  · exact nothing_calm.traceless

/-- A transformation has its answer before it sets the first field, and from
there on it does not fail. -/
theorem transform_traceless (o : Occasion) (a : Action) :
    (transform o a).Traceless := by
  unfold transform
  split
  · cases transformAnswer o a with
    | error fault => exact fail_traceless fault
    | ok answer =>
        show (mergeAnswer answer).Traceless
        unfold mergeAnswer
        split
        · exact fun _ => nofun
        · exact nothing_calm.traceless
  · exact nothing_calm.traceless

end Contribution

/-- A program that an action ran did not succeed, and the action shows as a
message what it said about that. -/
structure ShowsError (o : Occasion) (a : Action) (text : String) : Prop where
  shell : a.kind = .shell
  shown : a.stderr = some .appendToStdout
  ended : ∃ output, Process.run o a .none = .ok output
    ∧ output.status.succeeded = false ∧ Text.trim output.stderr = text
  said : text ≠ ""

namespace Contribution

/-- What the standard error of a program that did not succeed leaves. -/
theorem stderr_effects {o : Occasion} {a : Action} {output : ProcessOutput}
    (hkind : a.kind = .shell) (hrun : Process.run o a .none = .ok output)
    (hstatus : output.status.succeeded = false) :
    (route o (a.stderr.getD .log) .stderr output.stderr).effects = []
      ∨ ∃ text, ShowsError o a text
        ∧ (route o (a.stderr.getD .log) .stderr output.stderr).effects
          = [.message text] := by
  rcases route_effects o (a.stderr.getD .log) .stderr output.stderr with
    heffects | ⟨hmode, hsaid, heffects⟩
  · exact Or.inl heffects
  · have hshown : a.stderr = some .appendToStdout := by
      cases hown : a.stderr with
      | none => rw [hown] at hmode; cases hmode
      | some mode => rw [hown] at hmode; exact congrArg some hmode
    exact Or.inr ⟨_, ⟨hkind, hshown, ⟨output, hrun, hstatus, rfl⟩, hsaid⟩,
      heffects⟩

/-- A program that fails has left its standard error at most. -/
theorem shell_of_failed {o : Occasion} {a : Action} {fault : ActionFault}
    (hkind : a.kind = .shell) (h : (shell o a).ending = .failed fault) :
    (shell o a).effects = []
      ∨ ∃ text, ShowsError o a text
        ∧ (shell o a).effects = [.message text] := by
  unfold shell at h ⊢
  cases hrun : Process.run o a .none with
  | error fault => exact Or.inl rfl
  | ok output =>
      rw [hrun] at h
      dsimp only [ofResult] at h ⊢
      rw [andThen_of_done _ (route_done ..)] at h ⊢
      have hleft := stderr_effects hkind hrun
      obtain ⟨stdout, stderr, status⟩ := output
      -- an answer never fails, so the program did not succeed
      cases status with
      | signaled signal => simpa [fail] using hleft rfl
      | exited code =>
          cases code with
          | zero =>
              dsimp only at h
              exact absurd h ((answer_calm o a stdout).certain fault)
          | succ code => simpa [fail] using hleft rfl

end Contribution

/-- A failed action has left nothing behind, or the standard error of its program
as a message. -/
theorem contribution_of_failed {o : Occasion} {updated : Fields} {a : Action}
    {fault : ActionFault}
    (h : (contribution o updated a).ending = .failed fault) :
    (contribution o updated a).effects = []
      ∨ ∃ text, ShowsError o a text
        ∧ (contribution o updated a).effects = [.message text] := by
  by_cases hshell : a.kind = .shell
  · unfold contribution at h ⊢
    simp only [hshell] at h ⊢
    exact Contribution.shell_of_failed hshell h
  · suffices htraceless : (contribution o updated a).Traceless from
      Or.inl (htraceless fault h)
    by_cases hmodify : a.kind = .modify
    · unfold contribution
      simp only [hmodify]
      exact Contribution.modify_traceless o updated a
    · by_cases htransform : a.kind = .transform
      · unfold contribution
        simp only [htransform]
        exact Contribution.transform_traceless o a
      · rcases contribution_calm_or_fails o updated hshell hmodify htransform
          with hcalm | ⟨fault, hfail⟩
        · exact hcalm.traceless
        · rw [hfail]
          exact Contribution.fail_traceless fault

-- ==================================================================== rules

/-- An occasion whose rule has nothing but its id. Two rules with one id are
the same to an action, because their bare occasions are. -/
def Occasion.bare (o : Occasion) : Occasion :=
  { o with rule := { id := o.rule.id } }

namespace Contribution

/-- Directives speak of the rule by its id, where they give no reason of their
own. -/
theorem directives_bare (o : Occasion) (a : Action) (payload : Fields) :
    directives o.bare a payload = directives o a payload := rfl

/-- So does a text that is read as directives. -/
theorem answer_bare (o : Occasion) (a : Action) (text : String) :
    answer o.bare a text = answer o a text := by
  unfold answer
  split
  · exact directives_bare o a _
  · rfl

/-- What a program is told of the rule is its id as well, in a variable. -/
theorem shell_bare (o : Occasion) (a : Action) :
    shell o.bare a = shell o a := by
  unfold shell
  simp only [answer_bare]
  rfl

/-- A callable gets the view of the context, in which there is no rule at all. -/
theorem call_bare (o : Occasion) (a : Action) : call o.bare a = call o a := by
  unfold call
  simp only [directives_bare, answer_bare]
  rfl

end Contribution

/-- Of its rule an action knows the id alone. -/
theorem contribution_of_id (o : Occasion) (updated : Fields) (a : Action) :
    contribution o.bare updated a = contribution o updated a := by
  unfold contribution
  cases a.kind with
  | shell => exact Contribution.shell_bare o a
  | callable => exact Contribution.call_bare o a
  | _ => rfl

end HookRules
