/-
The changed input in a response.

The response to an event that is not blocked has the complete input, and not the
changed fields alone. It has one exactly if an action set a field, because a
layer of changed fields is empty only if nothing was set in it
(`Fields.overlay_ne_nil`). The object that it has is then the whole input after
the pass, so what is known of that (`Engine.runIn_wholeInput`) is true of what
the agent reads. What the single actions set is told by `Proofs/Contribution/Changes`,
from their configuration and from what their callables and programs do.
-/
import HookRules.Proofs.Contribution.Changes
import HookRules.Proofs.Response.Refusal
import Mathlib

namespace HookRules

-- ==================================================== the written response

/-- Where the response to an event of a kind has the changed input. -/
def EventKind.inputPlace : EventKind → List String
  | .permissionRequest => ["hookSpecificOutput", "decision", "updatedInput"]
  | _ => ["hookSpecificOutput", "updatedInput"]

theorem EventKind.mutatesInput_iff (k : EventKind) :
    k.mutatesInput = true ↔ k = .preToolUse ∨ k = .permissionRequest := by
  cases k <;> decide

/-- A response has the input of its specific part where events of its kind have
it. -/
theorem Response.at?_inputPlace {r : Response} {k : EventKind}
    (hmutates : k.mutatesInput = true)
    (hkind : ∀ s, r.specific = some s → s.kind = k) :
    r.toJson.at? k.inputPlace
      = (r.specific.bind (·.updatedInput?)).map .obj := by
  rcases k.mutatesInput_iff.mp hmutates with rfl | rfl
  · show r.toJson.at? ["hookSpecificOutput", "updatedInput"] = _
    rw [at?_specific]
    cases hs : r.specific with
    | none => rfl
    | some s =>
        cases s with
        | preToolUse decision reason input =>
            simp [SpecificOutput.toJson, SpecificOutput.fields,
              SpecificOutput.kindField, SpecificOutput.updatedInput?]
        | _ => cases hkind _ hs
  · show r.toJson.at? ["hookSpecificOutput", "decision", "updatedInput"] = _
    rw [at?_specific]
    cases hs : r.specific with
    | none => rfl
    | some s =>
        cases s with
        | permissionRequest decision =>
            rw [Option.bind_some, Json.at?_cons, SpecificOutput.get?_decision]
            simp [SpecificOutput.request?, SpecificOutput.updatedInput?,
              decision.get?_updatedInput]
        | _ => cases hkind _ hs

-- ================================================================ the outcome

/-- The response to an outcome that is not blocked has its complete input. -/
theorem Outcome.Sound.ofOutcome_input {o : Outcome} (h : o.Sound)
    (hb : o.isBlocked = false) (hmutates : o.kind.mutatesInput = true)
    (e : Event) :
    (Response.ofOutcome o e).specific.bind (·.updatedInput?)
      = o.effectiveInput e := by
  have hmild := h.closes.mild (blocked_of_not_isBlocked hb)
  show (Response.unspoken o e).specific.bind (·.updatedInput?) = _
  unfold Response.unspoken
  rcases o.kind.mutatesInput_iff.mp hmutates with hk | hk
  · rw [hk]
    show (Response.ofToolUse o e).specific.bind _ = _
    unfold Response.ofToolUse
    simp only [refusal_of_not_blocked hb]
    split
    · next hnone =>
        rw [Bool.and_eq_true] at hnone
        exact (Option.isNone_iff_eq_none.mp hnone.2).symm
    · rfl
  · rw [hk]
    show (Response.ofRequest o e).specific.bind _ = _
    unfold Response.ofRequest
    simp only [refusal_of_not_blocked hb]
    rcases hmild.request with hnone | ⟨-, hallowed⟩
    · rw [hnone]
      cases o.effectiveInput e <;> rfl
    · rw [hallowed]
      rfl

/-- There is a complete input if a field was changed. -/
theorem Outcome.effectiveInput_eq (o : Outcome) (e : Event) :
    o.effectiveInput e
      = if o.accumulator.updatedInput.isEmpty then none
        else some (e.wholeInput o.accumulator.updatedInput) := by
  unfold effectiveInput Accumulator.hasUpdatedInput
  cases o.accumulator.updatedInput with
  | nil => rfl
  | cons f rest => rfl

namespace Fields

theorem insert_ne_nil (name : String) (v : Json) (fs : Fields) :
    insert name v fs ≠ [] := by
  cases fs with
  | nil => exact List.cons_ne_nil _ _
  | cons f rest =>
      unfold insert
      split
      · exact List.cons_ne_nil _ _
      · split <;> exact List.cons_ne_nil _ _

/-- Something that was set is there. -/
theorem overlay_ne_nil {base top : Fields} (h : base ≠ [] ∨ top ≠ []) :
    overlay base top ≠ [] := by
  induction top generalizing base with
  | nil =>
      rcases h with h | h
      · exact h
      · exact absurd rfl h
  | cons f rest ih => exact ih (Or.inl (insert_ne_nil f.1 f.2 base))

/-- A layer is empty exactly if nothing is set in it. -/
theorem isEmpty_overlay_nil (fs : Fields) :
    (overlay [] fs).isEmpty = fs.isEmpty := by
  cases fs with
  | nil => rfl
  | cons f rest =>
      have hne : overlay [] (f :: rest) ≠ [] :=
        overlay_ne_nil (Or.inr (List.cons_ne_nil f rest))
      rw [List.isEmpty_eq_false_iff.mpr hne]
      rfl

end Fields

-- =========================================================== the agent's view

/-- The response to an event that is not blocked has the tool input with all
actions carried out on it, if one of them set a field, and else none. -/
theorem Engine.response_input (e : Engine) (world : World) (rules : List Rule)
    {c : Context} (hmutates : c.kind.mutatesInput = true) (clock : Clock)
    (hb : (e.evaluateRulesIn world rules c clock).outcome.isBlocked
      = false) :
    let view := c.view clock.running
    let actions := actionsOf (upToTerminal
      (Selection.select (e.registry c) c.kind (c.view clock.matching) rules))
    (Response.ofOutcome (e.evaluateRulesIn world rules c clock).outcome
        c.event).toJson.at? c.kind.inputPlace
      = if (e.fieldsWritten world c view 0 actions
          c.event.inputFields).isEmpty then none
        else some (.obj
          (e.inputAfter world c view 0 actions c.event.inputFields)) := by
  intro view actions
  have hsound := e.outcome_sound world rules c clock
  have hblock : (e.runIn world c view {} (Selection.select (e.registry c) c.kind
      (c.view clock.matching) rules)).block = none :=
    Outcome.blocked_of_not_isBlocked hb
  have hempty : (e.evaluateRulesIn world rules c
        clock).outcome.accumulator.updatedInput.isEmpty
      = (e.fieldsWritten world c view 0 actions c.event.inputFields).isEmpty :=
    (congrArg List.isEmpty (e.runIn_input world hmutates view {} .nil
      hblock)).trans (Fields.isEmpty_overlay_nil _)
  have hwhole : c.event.wholeInput (e.evaluateRulesIn world rules c
        clock).outcome.accumulator.updatedInput
      = e.inputAfter world c view 0 actions c.event.inputFields :=
    e.runIn_wholeInput world hmutates view {} .nil hblock
  rw [Response.at?_inputPlace hmutates fun s hs => Response.ofOutcome_answers hs,
    hsound.ofOutcome_input hb hmutates, Outcome.effectiveInput_eq, hempty,
    hwhole]
  split <;> rfl

/-- On events whose input can be changed, every action acts on the whole input as
it would on a plain object: it sets the fields that it would set there, and all
others stay. So a pass that nothing refuses leaves the whole input with its
actions carried out one after the other, and the response to an event that is not
blocked has the original input so changed. It has none exactly if no action set a
field, and fields that none set are as they came.

What an action sets depends on its kind alone. A modification sets the field that it
names, to the value that its operation makes of the one it finds there; a
transformation sets what its callable returns or its program prints under
`transform_input`; all others set nothing. -/
theorem input_changes_act_on_whole_object :
    (∀ (o : Occasion) (acc : Accumulator) (a : Action),
      o.kind.mutatesInput = true → acc.updatedInput.Ascending →
      let whole := o.context.event.wholeInput acc.updatedInput
      let after := acc.applyAll (contribution o acc.updatedInput a).effects
      let set := Contribution.fieldsSet o a whole
      after.updatedInput.Ascending
        ∧ o.context.event.wholeInput after.updatedInput = Fields.overlay whole set
        ∧ ∀ name, (∀ f ∈ set, f.1 ≠ name) →
          Fields.get? (o.context.event.wholeInput after.updatedInput) name
            = Fields.get? whole name)
    ∧ (∀ (e : Engine) (world : World) (c : Context) (view : Fields)
        (p : Progress) (selected : List Selected),
      c.kind.mutatesInput = true → p.accumulator.updatedInput.Ascending →
      let run := e.runIn world c view p selected
      run.block = none →
      c.event.wholeInput run.progress.accumulator.updatedInput
        = e.inputAfter world c view p.steps (actionsOf (upToTerminal selected))
            (c.event.wholeInput p.accumulator.updatedInput))
    ∧ (∀ (e : Engine) (world : World) (rules : List Rule) (c : Context)
        (clock : Clock), c.kind.mutatesInput = true →
      let view := c.view clock.running
      let o := (e.evaluateRulesIn world rules c clock).outcome
      let actions := actionsOf (upToTerminal
        (Selection.select (e.registry c) c.kind (c.view clock.matching) rules))
      let written := e.fieldsWritten world c view 0 actions c.event.inputFields
      let changed := e.inputAfter world c view 0 actions c.event.inputFields
      o.isBlocked = false →
      (Response.ofOutcome o c.event).toJson.at? c.kind.inputPlace
          = (if written.isEmpty then none else some (.obj changed))
        ∧ ∀ name, (∀ f ∈ written, f.1 ≠ name) →
          Fields.get? changed name = Fields.get? c.event.inputFields name)
    ∧ ∀ (o : Occasion) (a : Action) (input : Fields),
      let set := Contribution.fieldsSet o a input
      (a.kind = .modify →
        (set = [] ∨ ∃ name v, set = [(name, v)])
          ∧ ∀ name v, set = [(name, v)]
            ↔ a.field = some name ∧ name ≠ ""
              ∧ Modifies a (Fields.get? input name) v)
      ∧ (∀ payload, Transforms o payload a →
          (∀ fields,
            Fields.get? payload "transform_input" = some (.obj fields) →
            (Json.obj set).SameButFractions (.obj fields)
              ∧ (a.entrypoint.isSome = true → set = fields))
          ∧ ((∀ fields,
              Fields.get? payload "transform_input" ≠ some (.obj fields)) →
            set = []))
      ∧ (a.kind ≠ .modify → a.kind ≠ .transform → set = []) := by
  refine ⟨?_, ?_, ?_, ?_⟩
  · intro o acc a hmutates hasc whole after set
    obtain ⟨hafter, hwhole⟩ := contribution_wholeInput hmutates hasc a
    refine ⟨hafter, hwhole, ?_⟩
    intro name hname
    rw [hwhole]
    exact Fields.get?_overlay_of_not_mem hname whole
  · intro e world c view p selected hmutates hasc run hblock
    exact e.runIn_wholeInput world hmutates view p hasc hblock
  · intro e world rules c clock hmutates view o actions written changed hb
    refine ⟨e.response_input world rules hmutates clock hb, ?_⟩
    intro name hname
    have hchanged : changed = Fields.overlay c.event.inputFields written :=
      e.inputAfter_eq world c view 0 actions c.event.inputFields
    rw [hchanged]
    exact Fields.get?_overlay_of_not_mem hname _
  · intro o a input set
    refine ⟨fun hkind => Contribution.fieldsSet_modify_iff hkind o input, ?_, ?_⟩
    · intro payload htransforms
      refine ⟨?_, fun hnone => htransforms.fieldsSet_of_no_object hnone input⟩
      intro fields hfields
      obtain ⟨_, hsame, hexact, hset⟩ := htransforms.fieldsSet hfields
      have hset : set = _ := hset input
      rw [hset]
      exact ⟨hsame, hexact⟩
    · intro hmodify htransform
      exact Contribution.fieldsSet_of_other hmodify htransform o input

/-- Changes of two rules come together in the response, those of a callable among
them, and what no action changed is there as well. -/
theorem changes_of_two_rules_in_response :
    let limits : Fields :=
      [("note", .str "slow"),
        ("transform_input", .obj [("timeout", .num (.int 60))])]
    let shells : Fields :=
      [("transform_input", .obj [("shell", .str "bash")])]
    let e : Engine :=
      { host := ⟨.empty, none, "/"⟩
        entrypoints := ⟨[("m", [("limits", .callable fun _ =>
          ⟨0, .returned (.obj limits)⟩)])]⟩
        runner := fun _ =>
          .ok ⟨0, .exited 0, Text.bytes (Json.obj shells).render, []⟩ }
    let c := Context.ofEvent "/" ⟨{ sessionId := "s" }, .preToolUse
      ⟨"Bash", .obj [("command", .str "test"), ("cwd", .str "/w")], none⟩⟩
    let change (operation : ModifyOperation) (field : String) (value : Json) :
        Action :=
      { kind := .modify, operation := some operation, field := some field
        value := some value }
    let returning : Action :=
      { kind := .transform, entrypoint := some "m:limits" }
    let printing : Action := { kind := .transform, command := some "shells" }
    let adding := change .append "command" (.str "!")
    let rules : List Rule := [
      { id := "flag", actions := [change .append "command" (.str " -q")] },
      { id := "limit", actions := [change .set "timeout" .null, returning,
          change .prepend "command" (.str "run ")] }]
    let result := (e.evaluateRulesIn e.world rules c "").outcome
    let o := e.occasion (e.world 0) c (c.view "") default
    (c.kind.mutatesInput = true ∧ result.isBlocked = false
      ∧ (Response.ofOutcome result c.event).toJson.at? c.kind.inputPlace
        = some (.obj [("command", .str "run test -q"), ("cwd", .str "/w"),
            ("timeout", .num (.int 60))]))
      ∧ (Transforms o limits returning
        ∧ Contribution.fieldsSet o returning [] = [("timeout", .num (.int 60))])
      ∧ (Transforms o shells printing
        ∧ Json.SameButFractions (.obj (Contribution.fieldsSet o printing []))
          (.obj [("shell", .str "bash")]))
      ∧ adding.kind = .modify
      ∧ Contribution.fieldsSet o adding [("command", .null)]
        = [("command", .str "!")] := by
  intro limits shells e c change returning printing adding rules result o
  have hb : result.isBlocked = false := by cbv
  have hreturns : Transforms o limits returning := .returned rfl rfl (by cbv)
  have hnormal : (Json.obj shells).Normal := ⟨.obj shells, rfl⟩
  have hints : (Json.obj shells).HoldsJsonInts := by
    simp [shells, Json.HoldsJsonInts, Json.FieldsHoldJsonInts]
  have hnests : (Json.obj shells).NestsWithin Json.Reader.maxNesting := by
    simp [shells, Json.NestsWithin, Json.Reader.maxNesting]
  have hprints : Transforms o shells printing :=
    .printed rfl rfl rfl (by decide +kernel) rfl (by decide +kernel)
      (by decide +kernel) (.render hnormal hints hnests)
  refine ⟨⟨rfl, hb, ?_⟩, ⟨hreturns, ?_⟩, ⟨hprints, ?_⟩, rfl, ?_⟩
  · exact (input_changes_act_on_whole_object.2.2.1 e e.world rules c "" rfl
      hb).1.trans (by cbv)
  · exact (((input_changes_act_on_whole_object.2.2.2 o returning []).2.1 limits
      hreturns).1 _ rfl).2 rfl
  · exact (((input_changes_act_on_whole_object.2.2.2 o printing []).2.1 shells
      hprints).1 _ rfl).1
  · exact (((input_changes_act_on_whole_object.2.2.2 o adding
      [("command", .null)]).1 rfl).2 _ _).mpr
        ⟨rfl, by decide, .start (Or.inl rfl) rfl (Or.inr rfl)⟩

end HookRules
