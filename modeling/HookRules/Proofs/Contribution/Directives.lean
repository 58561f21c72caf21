/-
What the directives of a payload do.

# Two halves

The directives `inject` and `warn` add texts and decide nothing, the directives
`deny` and `allow` decide and add nothing. The two halves touch different fields
of the accumulator, so the order in which they are carried out does not show:
the texts are there whether the payload refuses or not (`applyAll_directives`).

# Decisions

What a payload refuses with is told by its `deny` alone (`Refuses`), so a grant
beside it has no say. A decision goes to the channel that the event has
(`Permissions.refused`, `Permissions.granted`) in the place of whatever an
earlier action has left there. Without a channel it leaves nothing, and a refusal
still ends the pass.
-/
import HookRules.Proofs.Contribution.Failure
import HookRules.Proofs.Output.Writing

namespace HookRules

-- ============================================================ the two channels

/-- The fields of an accumulator that hold decisions. -/
structure Permissions where
  decision : Option PermissionDecision
  reason : Option String
  request : Option RequestDecision

/-- The decisions that an accumulator holds, without its texts and its changed
input. -/
def Accumulator.permissions (acc : Accumulator) : Permissions where
  decision := acc.permissionDecision
  reason := acc.permissionReason
  request := acc.requestDecision

namespace Permissions

/-- A refusal, on the channel that an event of a kind has. -/
def refused (p : Permissions) (k : EventKind) (reason : String)
    (interrupt : Bool) : Permissions :=
  match k with
  | .preToolUse => { p with decision := some .deny, reason := some reason }
  | .permissionRequest =>
    { p with
      request := some { behavior := .deny, message := some reason, interrupt } }
  | _ => p

/-- A grant without a reason, on the channel that an event of a kind has. -/
def granted (p : Permissions) (k : EventKind) : Permissions :=
  match k with
  | .preToolUse => { p with decision := some .allow, reason := none }
  | .permissionRequest => { p with request := some { behavior := .allow } }
  | _ => p

end Permissions

namespace Accumulator

/-- Two accumulators that differ in decisions at most. -/
structure SameTexts (acc acc' : Accumulator) : Prop where
  messages : acc'.systemMessages = acc.systemMessages
  context : acc'.contextItems = acc.contextItems
  input : acc'.updatedInput = acc.updatedInput

theorem SameTexts.refl (acc : Accumulator) : acc.SameTexts acc :=
  ⟨rfl, rfl, rfl⟩

/-- The record of a refusal takes the place of an earlier decision on its
channel and touches no text. -/
theorem applyAll_refusalEffects (acc : Accumulator) (k : EventKind)
    (reason : String) (interrupt : Bool) :
    let after :=
      acc.applyAll (Contribution.refusalEffects k reason interrupt)
    after.permissions = acc.permissions.refused k reason interrupt
      ∧ acc.SameTexts after := by
  cases k <;> exact ⟨rfl, rfl, rfl, rfl⟩

/-- A grant overwrites in the same way, so a later grant also replaces a
refusal that did not end the pass. -/
theorem applyAll_grantEffects (acc : Accumulator) (k : EventKind) :
    let after := acc.applyAll (Contribution.grantEffects k none)
    after.permissions = acc.permissions.granted k ∧ acc.SameTexts after := by
  cases k <;> exact ⟨rfl, rfl, rfl, rfl⟩

end Accumulator

/-- The text under a name, if what is there is a text. -/
def Fields.textsAt (fs : Fields) (name : String) : List String :=
  ((Fields.get? fs name).bind Json.str?).toList

/-- What is no text adds none. -/
theorem Fields.textsAt_of_ne {fs : Fields} {name : String}
    (h : ∀ s, Fields.get? fs name = some (.str s) → False) :
    fs.textsAt name = [] := by
  unfold textsAt
  cases hv : Fields.get? fs name with
  | none => rfl
  | some v =>
      cases v with
      | str s => exact absurd hv (h s)
      | _ => rfl

/-- What refuses an event under the name of that directive, and with which
reason. The reason of a rule by itself stands in for a text that is missing or
blank. -/
inductive Refuses (r : Rule) : Option Json → String → Prop where
  | plainly : Refuses r (some (.bool true)) r.blockText
  | blankly {text : String} (h : ∀ c ∈ text.toList, Text.isBlank c = true) :
      Refuses r (some (.str text)) r.blockText
  | saying {text : String} (h : ∃ c ∈ text.toList, Text.isBlank c = false) :
      Refuses r (some (.str text)) text

namespace Contribution

variable {o : Occasion} {a : Action} {payload : Fields}

-- =================================================================== decisions

/-- What refuses is found with its reason. -/
theorem refusalReason?_of_refuses {reason : String}
    (h : Refuses o.rule (Fields.get? payload "deny") reason) :
    refusalReason? o payload = some reason := by
  unfold refusalReason?
  generalize Fields.get? payload "deny" = v at h
  cases h with
  | plainly => rfl
  | blankly h =>
      refine congrArg some (if_pos ?_)
      exact List.all_eq_true.mpr h
  | saying h =>
      refine congrArg some (if_neg ?_)
      intro hblank
      obtain ⟨c, hc, hstands⟩ := h
      rw [List.all_eq_true.mp hblank c hc] at hstands
      cases hstands

/-- A `deny` that is neither true nor a text does not refuse, nor does a
missing one. -/
theorem refusalReason?_of_none (htrue : Fields.get? payload "deny" ≠ some (.bool true))
    (htext : ∀ text, Fields.get? payload "deny" ≠ some (.str text)) :
    refusalReason? o payload = none := by
  unfold refusalReason?
  split
  · next h => exact absurd h htrue
  · next text h => exact absurd h (htext text)
  · rfl

/-- Only the literal true grants: not a text, not a number, and not an object. -/
theorem grants_iff (payload : Fields) :
    grants payload = true ↔ Fields.get? payload "allow" = some (.bool true) := by
  unfold grants
  split
  · next b h => rw [h, Option.some.injEq, Json.bool.injEq]
  · next hother =>
      refine ⟨nofun, ?_⟩
      intro h
      exact absurd h (hother true)

-- ======================================================================= texts

/-- The context of a payload is at most one piece, and none on events that take
no context. As a list, the cases are one. -/
theorem injectDirective_eq (o : Occasion) (payload : Fields) :
    injectDirective o payload
      = { effects :=
            (if o.kind.injectsContext then payload.textsAt "inject" else []).map
              .context } := by
  unfold injectDirective
  split
  · next content h =>
      unfold Fields.textsAt
      rw [h]
      split <;> rfl
  · next hother =>
      rw [Fields.textsAt_of_ne hother, ite_self]
      rfl

/-- The warning of a payload is at most one message. -/
theorem warnDirective_eq (payload : Fields) :
    warnDirective payload
      = { effects := (payload.textsAt "warn").map .message } := by
  unfold warnDirective
  split
  · next message h =>
      unfold Fields.textsAt
      rw [h]
      rfl
  · next hother =>
      rw [Fields.textsAt_of_ne hother]
      rfl

/-- The texts that a payload adds, whatever it decides. -/
def payloadTexts (o : Occasion) (payload : Fields) : Writing where
  messages := payload.textsAt "warn"
  context := if o.kind.injectsContext then payload.textsAt "inject" else []

/-- The texts of a payload are added first, whatever it decides. -/
theorem applyAll_directives (o : Occasion) (a : Action) (payload : Fields)
    (acc : Accumulator) :
    acc.applyAll (directives o a payload).effects
      = (acc.written (payloadTexts o payload)).applyAll
          (decision o a payload).effects := by
  have heffects : (directives o a payload).effects
      = (payloadTexts o payload).context.map .context
        ++ ((payloadTexts o payload).messages.map .message
          ++ (decision o a payload).effects) := by
    unfold directives
    rw [injectDirective_eq, warnDirective_eq, andThen_of_done _ rfl,
      andThen_of_done _ rfl]
    rfl
  rw [heffects, acc.applyAll_eq_written, Writing.ofEffects_append,
    Writing.ofEffects_append, Writing.ofEffects_context,
    Writing.ofEffects_message, ← Writing.append_assoc,
    Accumulator.written_append, ← Accumulator.applyAll_eq_written]
  simp only [Writing.append, List.append_nil, List.nil_append, Option.or_none]
  rfl

/-- How a payload ends is decided by the directive that comes last. -/
theorem directives_ending (o : Occasion) (a : Action) (payload : Fields) :
    (directives o a payload).ending = (decision o a payload).ending := by
  unfold directives
  rw [injectDirective_eq, warnDirective_eq, andThen_of_done _ rfl,
    andThen_of_done _ rfl]

/-- A decision leaves the texts as they are. -/
theorem decision_sameTexts (o : Occasion) (a : Action) (payload : Fields)
    (acc : Accumulator) :
    acc.SameTexts (acc.applyAll (decision o a payload).effects) := by
  unfold decision
  split
  · exact (acc.applyAll_refusalEffects o.kind _ a.interrupt).2
  · split
    · exact (acc.applyAll_grantEffects o.kind).2
    · exact .refl acc

/-- Of a payload the four directives count. -/
theorem directives_congr (o : Occasion) (a : Action) {payload other : Fields}
    (h : ∀ name ∈ ["inject", "warn", "allow", "deny"],
      Fields.get? other name = Fields.get? payload name) :
    directives o a other = directives o a payload := by
  have hinject : injectDirective o other = injectDirective o payload := by
    unfold injectDirective
    rw [h "inject" (by decide)]
  have hwarn : warnDirective other = warnDirective payload := by
    unfold warnDirective
    rw [h "warn" (by decide)]
  have hgrants : grants other = grants payload := by
    unfold grants
    rw [h "allow" (by decide)]
  have hrefusal : refusalReason? o other = refusalReason? o payload := by
    unfold refusalReason?
    rw [h "deny" (by decide)]
  unfold directives decision
  rw [hinject, hwarn, hgrants, hrefusal]

/-- What a payload comes to. It refuses by its `deny`, and then its `allow` does
not count; if it does not refuse, it grants by an `allow` that is true and by
nothing else. Its texts are added in either case, and nothing else of it has a
say. -/
theorem directives_outcome (o : Occasion) (a : Action) (payload : Fields)
    (acc : Accumulator) :
    let c := directives o a payload
    let after := acc.applyAll c.effects
    let deny := Fields.get? payload "deny"
    let allow := Fields.get? payload "allow"
    (∀ reason, Refuses o.rule deny reason →
        c.ending = .blocked reason
          ∧ after.permissions
            = acc.permissions.refused o.kind reason a.interrupt)
      ∧ (deny ≠ some (.bool true) → (∀ text, deny ≠ some (.str text)) →
        c.ending = .done
          ∧ (allow = some (.bool true) →
            after.permissions = acc.permissions.granted o.kind)
          ∧ (allow ≠ some (.bool true) →
            after.permissions = acc.permissions))
      ∧ after.contextItems
        = acc.contextItems
          ++ (if o.kind.injectsContext then payload.textsAt "inject" else [])
      ∧ after.systemMessages = acc.systemMessages ++ payload.textsAt "warn"
      ∧ after.updatedInput = acc.updatedInput
      ∧ ∀ other : Fields,
        (∀ name ∈ ["inject", "warn", "allow", "deny"],
          Fields.get? other name = Fields.get? payload name) →
        directives o a other = c := by
  dsimp only
  rw [applyAll_directives, directives_ending]
  have hkept := decision_sameTexts o a payload
    (acc.written (payloadTexts o payload))
  refine ⟨?_, ?_, hkept.context, hkept.messages, hkept.input,
    fun other => directives_congr o a⟩
  · intro reason hrefuses
    have hdecision : decision o a payload = refuse o reason a.interrupt := by
      unfold decision
      rw [refusalReason?_of_refuses hrefuses]
    rw [hdecision]
    exact ⟨rfl, (Accumulator.applyAll_refusalEffects _ _ _ _).1⟩
  · intro htrue htext
    have hdecision : decision o a payload
        = if grants payload then grant o none else nothing := by
      unfold decision
      rw [refusalReason?_of_none htrue htext]
    rw [hdecision]
    by_cases hgrants : Fields.get? payload "allow" = some (.bool true)
    · rw [if_pos ((grants_iff payload).mpr hgrants)]
      exact ⟨rfl, fun _ => (Accumulator.applyAll_grantEffects _ _).1,
        fun hother => absurd hgrants hother⟩
    · rw [if_neg (mt (grants_iff payload).mp hgrants)]
      exact ⟨rfl, fun h => absurd h hgrants, fun _ => rfl⟩

/-- On a tool call that an earlier action allowed: a blank refusal beside a grant
denies with the reason of the rule and keeps the warning, whatever is said under
other names, and a grant in words leaves the decision as it was. -/
theorem directives_of_blank_refusal :
    let o : Occasion :=
      { context := Context.ofEvent "/"
          ⟨{ sessionId := "s" }, .preToolUse ⟨"Bash", .null, none⟩⟩
        view := []
        rule := { id := "r" }
        settings := {}
        entrypoints := {}
        host := ⟨.empty, none, "/"⟩
        runner := fun _ => .error (.notStarted .notFound) }
    let a : Action := { kind := .callable }
    let acc : Accumulator := { permissionDecision := some .allow }
    let refusal : Fields :=
      [("allow", .bool true), ("deny", .str " "), ("warn", .str "careful")]
    let c := directives o a refusal
    let words : Fields := [("allow", .str "true"), ("deny", .bool false)]
    c.ending = .blocked "Blocked by rule 'r'"
      ∧ (acc.applyAll c.effects).permissions
        = ⟨some .deny, some "Blocked by rule 'r'", none⟩
      ∧ (acc.applyAll c.effects).systemMessages = ["careful"]
      ∧ directives o a (("reason", .ofInt 1) :: refusal) = c
      ∧ (directives o a words).ending = .done
      ∧ (acc.applyAll (directives o a words).effects).permissions
        = acc.permissions := by
  intro o a acc refusal c words
  obtain ⟨hrefused, -, -, hmessages, -, hothers⟩ :=
    directives_outcome o a refusal acc
  obtain ⟨-, hpassed, -, -, -, -⟩ := directives_outcome o a words acc
  have hblank : Refuses o.rule (some (.str " ")) "Blocked by rule 'r'" := by
    refine .blankly ?_
    intro c hc
    rw [List.mem_singleton.mp hc]
    rfl
  obtain ⟨hending, hpermissions⟩ := hrefused _ hblank
  have hdeny : Fields.get? words "deny" = some (.bool false) := rfl
  have hallow : Fields.get? words "allow" = some (.str "true") := rfl
  rw [hdeny, hallow] at hpassed
  obtain ⟨hdone, -, hkept⟩ := hpassed nofun nofun
  have hother : ∀ name ∈ ["inject", "warn", "allow", "deny"],
      Fields.get? (("reason", .ofInt 1) :: refusal) name
        = Fields.get? refusal name := by
    intro name hname
    rw [Fields.get?_cons, if_neg]
    rintro rfl
    exact absurd hname (by decide)
  exact ⟨hending, hpermissions, hmessages, hothers _ hother, hdone,
    hkept nofun⟩

end Contribution

end HookRules
