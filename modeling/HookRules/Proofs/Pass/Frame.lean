/-
What one action leaves alone, and what it looks at.

# One action

An action writes to the accumulator and takes nothing away from it
(`Accumulator.written`). What it writes is the same on every accumulator
(`action_frame`): the messages, the context and the decisions are told by the
action and its occasion, and so are the entries in the log and the ending. Only the
fields that it sets may depend on the input as it was changed so far, and only a
modification looks at that (`contribution_frame`).

# A pass

That an action looks at the changed input alone is written into the type of what it
contributes. A pass is not so restricted: it hands everything that was done so far
to each action. From two starts with the same changed input it still comes to the
same end, but for what was on the accumulator before (`Engine.run_frame`).
-/
import HookRules.Proofs.Output.Writing
import HookRules.Proofs.Pass.WithoutFailed

namespace HookRules

namespace Writing

/-- The same with other fields. -/
def withFields (w : Writing) (fs : List (String × Json)) : Writing :=
  { w with fields := fs }

theorem ofEffects_field (fs : List (String × Json)) :
    ofEffects (fs.map fun (name, value) => .field name value)
      = { fields := fs } := by
  induction fs with
  | nil => rfl
  | cons f rest ih => rw [List.map_cons, ofEffects_cons, ih]; rfl

end Writing

namespace Accumulator

/-- Each field has the value that was set last, or the one that it had. -/
theorem get?_written (acc : Accumulator) (w : Writing) (name : String) :
    Fields.get? (acc.written w).updatedInput name
      = (Fields.last? w.fields name).or (Fields.get? acc.updatedInput name) :=
  Fields.get?_overlay _ _ _

end Accumulator

namespace Contribution

-- ============================================================== modifications

/-- Whether an operation goes wrong does not depend on the value of the field. -/
theorem modified_frame (a : Action) :
    (∃ fault, ∀ current, modified a current = .error fault)
      ∨ ∃ value : Option Json → Option Json,
        ∀ current, modified a current = .ok (value current) := by
  unfold modified
  cases a.operation.getD .set with
  | set => exact Or.inr ⟨_, fun _ => rfl⟩
  | append => exact Or.inr ⟨_, fun _ => rfl⟩
  | prepend => exact Or.inr ⟨_, fun _ => rfl⟩
  | replace =>
      cases a.pattern with
      | none => exact Or.inl ⟨_, fun _ => rfl⟩
      | some pattern =>
          dsimp only
          cases Regex.ofText pattern with
          | error fault => exact Or.inl ⟨_, fun _ => rfl⟩
          | ok regex =>
              refine Or.inr ⟨fun current => (current.bind Json.str?).map
                fun old => .str (regex.replaceAll old
                  ((a.value.getD .null).str?.getD "")), ?_⟩
              intro current
              cases current with
              | none => rfl
              | some v => cases v <;> rfl

/-- A modification does nothing but set fields, and it ends as it ends on every
input. -/
theorem modify_frame (o : Occasion) (a : Action) :
    ∃ (fields : Fields → List (String × Json)) (ending : Ending),
      ∀ updated, modify o updated a
        = { effects := (fields updated).map fun (name, value) =>
              .field name value
            ending } := by
  unfold modify
  split
  · cases a.field.filter (· ≠ "") with
    | none => exact ⟨fun _ => [], _, fun _ => rfl⟩
    | some name =>
        dsimp only
        rcases modified_frame a with ⟨fault, hfault⟩ | ⟨value, hvalue⟩
        · refine ⟨fun _ => [], .failed (.config fault), ?_⟩
          intro updated
          rw [hfault]
          rfl
        · refine ⟨fun updated => ((value (currentValue o updated name)).map
            fun v => (name, v)).toList, .done, ?_⟩
          intro updated
          rw [hvalue]
          dsimp only
          cases value (currentValue o updated name) <;> rfl
  · exact ⟨fun _ => [], .done, fun _ => rfl⟩

end Contribution

-- ================================================================== an action

/-- Only a modification looks at the changed input. -/
theorem contribution_fields (o : Occasion) {a : Action} (h : a.kind ≠ .modify)
    (updated updated' : Fields) :
    contribution o updated a = contribution o updated' a := by
  unfold contribution
  cases hkind : a.kind with
  | modify => exact absurd hkind h
  | _ => rfl

/-- What an action contributes is the same on every input but for the fields that
it sets, and these are so too unless it modifies the input. -/
theorem contribution_frame (o : Occasion) (a : Action) :
    ∃ (w : Writing) (fields : Fields → List (String × Json))
      (logs : List LogEntry) (ending : Ending),
      (∀ updated,
        (contribution o updated a).ending = ending
          ∧ (contribution o updated a).logs = logs
          ∧ Writing.ofEffects (contribution o updated a).effects
            = w.withFields (fields updated))
      ∧ (a.kind ≠ .modify →
        ∀ updated updated', fields updated = fields updated') := by
  by_cases hkind : a.kind = .modify
  · obtain ⟨fields, ending, hmodify⟩ := Contribution.modify_frame o a
    refine ⟨{}, fields, [], ending, ?_, fun h => absurd hkind h⟩
    intro updated
    have hcontribution : contribution o updated a
        = Contribution.modify o updated a := by
      unfold contribution
      rw [hkind]
    rw [hcontribution, hmodify]
    exact ⟨rfl, rfl, Writing.ofEffects_field _⟩
  · -- it does the same as with no changes at all
    let c := contribution o [] a
    refine ⟨Writing.ofEffects c.effects,
      fun _ => (Writing.ofEffects c.effects).fields, c.logs, c.ending, ?_,
      fun _ _ _ => rfl⟩
    intro updated
    rw [contribution_fields o hkind updated []]
    exact ⟨rfl, rfl, rfl⟩

-- ===================================================================== a pass

/-- A pass from two starts with the same changed input: it comes to the same
summary and the same block, and writes the same on both accumulators. -/
theorem Engine.run_frame (e : Engine) (c : Context) (view : Fields)
    {p q : Progress} (h : SameInput p q) (selected : List Selected) :
    (e.run c view p selected).summary = (e.run c view q selected).summary
      ∧ (e.run c view p selected).block = (e.run c view q selected).block
      ∧ ∃ w : Writing,
        (e.run c view p selected).progress.accumulator
            = p.accumulator.written w
          ∧ (e.run c view q selected).progress.accumulator
            = q.accumulator.written w := by
  obtain ⟨hsummary, hblock, hwrites⟩ :=
    runRules_agrees (e.act_steady c view) h selected
  refine ⟨hsummary, hblock,
    Writing.ofEffects (passWrites (e.act e.world c view) p selected), ?_, ?_⟩
  · rw [← Accumulator.applyAll_eq_written]
    exact runRules_accumulator _ p selected
  · rw [hwrites, ← Accumulator.applyAll_eq_written]
    exact runRules_accumulator _ q selected

-- ================================================================ both together

/-- On whatever accumulator an action runs, it ends in the same way, logs the same
and writes the same messages, context and decisions behind what is there, or in
its place. Only the fields that it sets are told by the changed input, and by
nothing else on the accumulator; only a modification looks even at that; and a
field that it does not set stays as it was.

A whole pass keeps to this as well, although its actions are given all that the
ones before them did: from two starts with the same changed input it comes to the
same summary and the same block, and writes the same on both accumulators. -/
theorem action_frame :
    (∀ (o : Occasion) (a : Action),
      ∃ (w : Writing) (fields : Fields → List (String × Json))
        (logs : List LogEntry) (ending : Ending),
        (∀ acc : Accumulator,
          let c := contribution o acc.updatedInput a
          let after := acc.applyAll c.effects
          c.ending = ending
            ∧ c.logs = logs
            ∧ after = acc.written (w.withFields (fields acc.updatedInput))
            ∧ acc.systemMessages <+: after.systemMessages
            ∧ acc.contextItems <+: after.contextItems
            ∧ ∀ name, Fields.get? after.updatedInput name
              = (Fields.last? (fields acc.updatedInput) name).or
                  (Fields.get? acc.updatedInput name))
        ∧ (a.kind ≠ .modify →
          ∀ updated updated', fields updated = fields updated'))
    ∧ ∀ (e : Engine) (c : Context) (view : Fields) (p q : Progress)
        (selected : List Selected),
      p.accumulator.updatedInput = q.accumulator.updatedInput →
      (e.run c view p selected).summary = (e.run c view q selected).summary
        ∧ (e.run c view p selected).block = (e.run c view q selected).block
        ∧ ∃ w : Writing,
          (e.run c view p selected).progress.accumulator
              = p.accumulator.written w
            ∧ (e.run c view q selected).progress.accumulator
              = q.accumulator.written w := by
  refine ⟨?_, fun e c view p q selected h => e.run_frame c view h selected⟩
  intro o a
  obtain ⟨w, fields, logs, ending, hall, hsteady⟩ := contribution_frame o a
  refine ⟨w, fields, logs, ending, ?_, hsteady⟩
  intro acc c after
  obtain ⟨hending, hlogs, hwrites⟩ := hall acc.updatedInput
  have hafter : after
      = acc.written (w.withFields (fields acc.updatedInput)) := by
    rw [← hwrites]
    exact acc.applyAll_eq_written c.effects
  refine ⟨hending, hlogs, hafter, ?_, ?_, ?_⟩
  · rw [hafter]
    exact List.prefix_append _ _
  · rw [hafter]
    exact List.prefix_append _ _
  · intro name
    rw [hafter]
    exact acc.get?_written _ name

/-- Text added to a field on two accumulators, one of which holds a refusal, a
message and a changed field: the action ends in the same way on both and keeps
what is there, and both hold the field as they had it with the text behind it. A
warning writes the same on every accumulator. A pass with both actions comes to
the same summary from the refusal and the message as without them. -/
theorem frame_of_appended_text :
    let o : Occasion :=
      { context := Context.ofEvent "/"
          ⟨{ sessionId := "s" },
            .preToolUse ⟨"Bash", .obj [("command", .str "ls")], none⟩⟩
        view := []
        rule := { id := "r" }
        settings := {}
        entrypoints := {}
        host := ⟨.empty, none, "/"⟩
        runner := fun _ => .error (.notStarted .notFound) }
    let a : Action :=
      { kind := .modify, field := some "command", operation := some .append,
        value := some (.str " -a") }
    let acc : Accumulator :=
      { permissionDecision := some .deny, systemMessages := ["no"]
        updatedInput := [("command", .str "rm")] }
    let c := contribution o acc.updatedInput a
    let d := contribution o [] a
    let e : Engine := { host := o.host, runner := o.runner }
    let selected : List Selected :=
      [⟨{ id := "r", actions := [a, { kind := .warn }] }, 0⟩]
    c.ending = d.ending
      ∧ acc.systemMessages <+: (acc.applyAll c.effects).systemMessages
      ∧ Fields.get? (acc.applyAll c.effects).updatedInput "command"
        = some (.str "rm -a")
      ∧ Fields.get? (Accumulator.applyAll {} d.effects).updatedInput "command"
        = some (.str "ls -a")
      ∧ (∃ w, ∀ acc : Accumulator,
        acc.applyAll (contribution o acc.updatedInput { kind := .warn }).effects
          = acc.written w)
      ∧ (e.run o.context [] ⟨acc, [], 7⟩ selected).summary
        = (e.run o.context [] ⟨{ updatedInput := acc.updatedInput }, [], 0⟩
            selected).summary := by
  intro o a acc c d e selected
  obtain ⟨w, fields, logs, ending, hall, -⟩ := action_frame.1 o a
  obtain ⟨hending, -, -, hmessages, -, -⟩ := hall acc
  obtain ⟨hending', -, -, -, -, -⟩ := hall {}
  refine ⟨hending.trans hending'.symm, hmessages, rfl, rfl, ?_,
    (action_frame.2 e o.context [] _ _ selected rfl).1⟩
  obtain ⟨w, fields, logs, ending, hwarn, hsteady⟩ :=
    action_frame.1 o { kind := .warn }
  refine ⟨w.withFields (fields []), fun acc => ?_⟩
  rw [hsteady (by decide) [] acc.updatedInput]
  exact (hwarn acc).2.2.1

end HookRules
