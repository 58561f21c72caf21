/-
What a pass writes, and what its accumulator holds at every point.

# Points of a pass

A pass changes its accumulator by effects, one after the other. `passWrites`
lists all of them in the order in which they are written; a point of the pass is
a prefix of that list, so that the points between the effects of one action
count as well. The accumulator at the end is the one after all writes
(`runRules_accumulator`).

# The invariant

`Accumulator.Mild` says what the accumulator holds as long as nothing was
refused: only channels that the event has, no decision but to allow, no input in
the answer to a request. Every mild effect keeps it. A pass whose actions write
to the channels of the event (`KeepsTo`) writes mild effects up to a refusal,
and the record of the refusal is the last thing that it writes. So a refusal on
record is the end of the pass, and no grant comes after it
(`Accumulator.Closes`).
-/
import HookRules.Proofs.Contribution.Channels
import HookRules.Engine

namespace HookRules

-- ============================================================== the writes

/-- The effects of actions up to the first one that refuses. -/
def actionWrites (act : Progress → Action → Contribution) :
    Progress → List Action → List Effect
  | _, [] => []
  | p, a :: rest =>
      let c := act p a
      c.effects ++ match c.ending.refusal? with
        | some _ => []
        | none => actionWrites act (p.add c) rest

/-- The effects of rules up to the first one that refuses or is terminal. -/
def passWrites (act : Rule → Progress → Action → Contribution) :
    Progress → List Selected → List Effect
  | _, [] => []
  | p, s :: rest =>
      let run := runActions (act s.rule) p s.rule.actions
      actionWrites (act s.rule) p s.rule.actions
        ++ if run.refusal.isSome || s.rule.terminal then []
          else passWrites act run.progress rest

/-- Effects in two parts are the second part on what the first has left. -/
theorem Accumulator.applyAll_append (acc : Accumulator)
    (first later : List Effect) :
    acc.applyAll (first ++ later) = (acc.applyAll first).applyAll later :=
  List.foldl_append

/-- The accumulator after actions is the one after what they write. -/
theorem runActions_accumulator (act : Progress → Action → Contribution)
    (p : Progress) (actions : List Action) :
    (runActions act p actions).progress.accumulator
      = p.accumulator.applyAll (actionWrites act p actions) := by
  induction actions generalizing p with
  | nil => rfl
  | cons a rest ih =>
      rw [runActions, actionWrites]
      cases hend : (act p a).ending with
      | done =>
          rw [Accumulator.applyAll_append]
          exact ih (p.add (act p a))
      | failed fault =>
          rw [Accumulator.applyAll_append]
          exact ih (p.add (act p a))
      | blocked reason =>
          rw [Accumulator.applyAll_append]
          rfl

/-- The accumulator at the end of a pass is the one after all its writes. -/
theorem runRules_accumulator (act : Rule → Progress → Action → Contribution)
    (p : Progress) (selected : List Selected) :
    (runRules act p selected).progress.accumulator
      = p.accumulator.applyAll (passWrites act p selected) := by
  induction selected generalizing p with
  | nil => rfl
  | cons s rest ih =>
      have hown := runActions_accumulator (act s.rule) p s.rule.actions
      rw [runRules, passWrites, Accumulator.applyAll_append, ← hown]
      cases href : (runActions (act s.rule) p s.rule.actions).refusal with
      | some reason => rfl
      | none =>
          cases hterm : s.rule.terminal with
          | true => rfl
          | false => exact ih (runActions (act s.rule) p s.rule.actions).progress

-- =========================================================== their refusal

/-- Actions that write to the channels of a kind do so together. -/
theorem actionWrites_for {k : EventKind}
    {act : Progress → Action → Contribution}
    (hact : ∀ p a, (act p a).KeepsTo k) (p : Progress) (actions : List Action) :
    WritesFor k (actionWrites act p actions)
      (runActions act p actions).refusal := by
  induction actions generalizing p with
  | nil => exact WritesFor.nil k
  | cons a rest ih =>
      have hown : WritesFor k (act p a).effects (act p a).ending.refusal? :=
        hact p a
      rw [runActions, actionWrites]
      cases hend : (act p a).ending with
      | done =>
          rw [hend] at hown
          exact hown.append (ih (p.add (act p a)))
      | failed fault =>
          rw [hend] at hown
          exact hown.append (ih (p.add (act p a)))
      | blocked reason =>
          rw [hend] at hown
          dsimp only [Ending.refusal?]
          rw [List.append_nil]
          exact hown

/-- A pass whose actions write to the channels of a kind writes mild effects,
and after them the record of the refusal that blocks it, if one does. -/
theorem passWrites_for {k : EventKind}
    {act : Rule → Progress → Action → Contribution}
    (hact : ∀ r p a, (act r p a).KeepsTo k) (p : Progress)
    (selected : List Selected) :
    WritesFor k (passWrites act p selected)
      ((runRules act p selected).block.map (·.reason)) := by
  induction selected generalizing p with
  | nil => exact WritesFor.nil k
  | cons s rest ih =>
      have hown := actionWrites_for (hact s.rule) p s.rule.actions
      rw [runRules, passWrites]
      cases href : (runActions (act s.rule) p s.rule.actions).refusal with
      | some reason =>
          rw [href] at hown
          simp only [Option.isSome_some, Bool.true_or, if_true,
            List.append_nil, Option.map_some]
          exact hown
      | none =>
          rw [href] at hown
          cases hterm : s.rule.terminal with
          | true =>
              simp only [Option.isSome_none, Bool.false_or, if_true,
                List.append_nil, Option.map_none]
              exact hown
          | false => exact hown.append (ih _)

/-- The actions of an engine write to the channels of the event. -/
theorem Engine.act_keepsTo (e : Engine) (world : World) (c : Context)
    (view : Fields) (r : Rule) (p : Progress) (a : Action) :
    (e.act world c view r p a).KeepsTo c.kind :=
  contribution_keepsTo (e.occasion (world p.steps) c view r)
    p.accumulator.updatedInput a

/-- A point of a pass is either after mild effects only, or the end of a pass
with a refusal. -/
theorem WritesFor.point {k : EventKind} {writes done : List Effect}
    {refusal : Option String} (h : WritesFor k writes refusal)
    (hdone : done <+: writes) :
    (∀ e ∈ done, e.Mild k) ∨ done = writes ∧ refusal.isSome := by
  cases h with
  | mild h => exact Or.inl fun e he => h e (hdone.subset he)
  | @refusal mild h reason interrupt =>
      -- at most one effect records the refusal
      have hone : Contribution.refusalEffects k reason interrupt = []
          ∨ ∃ e, Contribution.refusalEffects k reason interrupt = [e] := by
        unfold Contribution.refusalEffects
        split
        · exact Or.inr ⟨_, rfl⟩
        · split
          · exact Or.inr ⟨_, rfl⟩
          · exact Or.inl rfl
      rcases hone with hnil | ⟨e, he⟩
      · rw [hnil, List.append_nil] at hdone
        exact Or.inl fun e he => h e (hdone.subset he)
      · rw [he] at hdone ⊢
        rcases List.prefix_concat_iff.mp hdone with heq | hmild
        · exact Or.inr ⟨heq, rfl⟩
        · exact Or.inl fun e he => h e (hmild.subset he)

-- =========================================================== the invariant

namespace Accumulator

/-- What the accumulator of an event holds as long as nothing was refused. -/
structure Mild (k : EventKind) (acc : Accumulator) : Prop where
  permission : acc.permissionDecision = none
    ∨ k = .preToolUse ∧ acc.permissionDecision = some .allow
  request : acc.requestDecision = none
    ∨ k = .permissionRequest ∧ acc.requestDecision = some .allowed
  input : acc.updatedInput ≠ [] → k.mutatesInput = true
  context : acc.contextItems ≠ [] → k.injectsContext = true

/-- What the accumulator of an event holds at any point of a pass. -/
structure Within (k : EventKind) (acc : Accumulator) : Prop where
  /-- Only tool calls are decided, and no decision is to ask. -/
  permission : acc.permissionDecision ≠ none → k = .preToolUse
  decided : acc.permissionDecision ≠ some .ask
  /-- Only permission requests are answered, and no answer has an input. -/
  request : acc.requestDecision ≠ none → k = .permissionRequest
  bare : ∀ d, acc.requestDecision = some d → d.updatedInput = none
  input : acc.updatedInput ≠ [] → k.mutatesInput = true
  context : acc.contextItems ≠ [] → k.injectsContext = true

/-- A refusal is on record. -/
def Denies (acc : Accumulator) : Prop :=
  acc.permissionDecision = some .deny
    ∨ ∃ d, acc.requestDecision = some d ∧ d.behavior = .deny

/-- The empty accumulator refuses nothing. -/
theorem Mild.empty (k : EventKind) : Mild k {} where
  permission := Or.inl rfl
  request := Or.inl rfl
  input := fun h => absurd rfl h
  context := fun h => absurd rfl h

/-- One mild effect. -/
theorem Mild.apply {k : EventKind} {acc : Accumulator} {e : Effect}
    (hacc : Mild k acc) (he : e.Mild k) : Mild k (acc.apply e) := by
  obtain ⟨hperm, hreq, hinput, hcontext⟩ := hacc
  cases e with
  | permission decision reason =>
      obtain ⟨hk, rfl⟩ := he
      exact ⟨Or.inr ⟨hk, rfl⟩, hreq, hinput, hcontext⟩
  | answer decision =>
      obtain ⟨hk, rfl⟩ := he
      exact ⟨hperm, Or.inr ⟨hk, rfl⟩, hinput, hcontext⟩
  | message text => exact ⟨hperm, hreq, hinput, hcontext⟩
  | context text => exact ⟨hperm, hreq, hinput, fun _ => he⟩
  | field name value => exact ⟨hperm, hreq, fun _ => he, hcontext⟩

/-- Any number of mild effects. -/
theorem Mild.applyAll {k : EventKind} {acc : Accumulator}
    {effects : List Effect} (hacc : Mild k acc)
    (h : ∀ e ∈ effects, e.Mild k) : Mild k (acc.applyAll effects) := by
  induction effects generalizing acc with
  | nil => exact hacc
  | cons e rest ih =>
      obtain ⟨he, hrest⟩ := List.forall_mem_cons.mp h
      exact ih (hacc.apply he) hrest

/-- What is mild is on channels that the event has. -/
theorem Mild.within {k : EventKind} {acc : Accumulator} (h : Mild k acc) :
    Within k acc where
  permission := by
    intro hsome
    rcases h.permission with hnone | ⟨hk, -⟩
    · exact absurd hnone hsome
    · exact hk
  decided := by
    intro hask
    rcases h.permission with hnone | ⟨-, hallow⟩
    · rw [hnone] at hask
      cases hask
    · rw [hallow] at hask
      cases hask
  request := by
    intro hsome
    rcases h.request with hnone | ⟨hk, -⟩
    · exact absurd hnone hsome
    · exact hk
  bare := by
    intro d hd
    rcases h.request with hnone | ⟨-, hallow⟩
    · rw [hnone] at hd
      cases hd
    · rw [hallow] at hd
      cases hd
      rfl
  input := h.input
  context := h.context

/-- What is mild denies on neither channel. -/
theorem Mild.not_denies {k : EventKind} {acc : Accumulator} (h : Mild k acc) :
    ¬ acc.Denies := by
  rintro (hdeny | ⟨d, hd, hdeny⟩)
  · rcases h.permission with hnone | ⟨-, hallow⟩
    · rw [hnone] at hdeny
      cases hdeny
    · rw [hallow] at hdeny
      cases hdeny
  · rcases h.request with hnone | ⟨-, hallow⟩
    · rw [hnone] at hd
      cases hd
    · rw [hallow] at hd
      cases hd
      cases hdeny

/-- What the record of a refusal makes of an accumulator. -/
def refusing (acc : Accumulator) (k : EventKind) (reason : String)
    (interrupt : Bool) : Accumulator :=
  acc.applyAll (Contribution.refusalEffects k reason interrupt)

theorem refusing_preToolUse (acc : Accumulator) (reason : String)
    (interrupt : Bool) :
    acc.refusing .preToolUse reason interrupt
      = { acc with
          permissionDecision := some .deny
          permissionReason := some reason } := rfl

theorem refusing_permissionRequest (acc : Accumulator) (reason : String)
    (interrupt : Bool) :
    acc.refusing .permissionRequest reason interrupt
      = { acc with
          requestDecision := some (.denied reason interrupt) } := rfl

/-- A refusal is recorded only for events that have a channel for it. -/
theorem refusing_of_other {k : EventKind} (hp : k ≠ .preToolUse)
    (hr : k ≠ .permissionRequest) (acc : Accumulator) (reason : String)
    (interrupt : Bool) : acc.refusing k reason interrupt = acc := by
  have hp' : k.decidesPermission = false :=
    Bool.eq_false_iff.mpr fun h => hp ((k.decidesPermission_iff).mp h)
  have hr' : k.answersRequest = false :=
    Bool.eq_false_iff.mpr fun h => hr ((k.answersRequest_iff).mp h)
  unfold refusing Contribution.refusalEffects
  rw [hp', hr']
  rfl

/-- The record of a refusal is on a channel of the event too, and leaves the
others as they are. -/
theorem Mild.refusing_within {k : EventKind} {acc : Accumulator}
    (h : Mild k acc) (reason : String) (interrupt : Bool) :
    Within k (acc.refusing k reason interrupt) := by
  have hw := h.within
  by_cases hp : k = .preToolUse
  · subst hp
    rw [refusing_preToolUse]
    exact ⟨fun _ => rfl, nofun, hw.request, hw.bare, hw.input, hw.context⟩
  · by_cases hr : k = .permissionRequest
    · subst hr
      rw [refusing_permissionRequest]
      refine ⟨hw.permission, hw.decided, fun _ => rfl, ?_, hw.input,
        hw.context⟩
      intro d hd
      cases hd
      rfl
    · rw [refusing_of_other hp hr]
      exact hw

/-- What the accumulator of an event holds at the end of a pass: without a block
nothing is refused on it, and a block is the last thing on it. -/
structure Closes (k : EventKind) (block : Option Block) (acc : Accumulator) :
    Prop where
  mild : block = none → acc.Mild k
  refused : ∀ b, block = some b → ∃ before interrupt,
    Mild k before ∧ acc = before.refusing k b.reason interrupt

variable {block : Option Block} {acc : Accumulator}

/-- The refusal of a tool call has the reason of the block. -/
theorem Closes.permission {b : Block} (h : Closes .preToolUse block acc)
    (hb : block = some b) :
    acc.permissionDecision = some .deny
      ∧ acc.permissionReason = some b.reason := by
  obtain ⟨before, interrupt, -, heq⟩ := h.refused b hb
  rw [heq, refusing_preToolUse]
  exact ⟨rfl, rfl⟩

/-- The refusal of a request has the reason of the block. -/
theorem Closes.request {b : Block} (h : Closes .permissionRequest block acc)
    (hb : block = some b) :
    ∃ interrupt, acc.requestDecision = some (.denied b.reason interrupt) := by
  obtain ⟨before, interrupt, -, heq⟩ := h.refused b hb
  rw [heq, refusing_permissionRequest]
  exact ⟨interrupt, rfl⟩

/-- Only a block leaves a refusal on record. -/
theorem Closes.block_of_denies {k : EventKind} (h : Closes k block acc)
    (hdenies : acc.Denies) : ∃ b, block = some b := by
  cases hb : block with
  | some b => exact ⟨b, rfl⟩
  | none => exact absurd hdenies (h.mild hb).not_denies

/-- A denied permission stands there exactly if the pass was blocked, since
only the record of a block writes one. -/
theorem Closes.permission_deny_iff (h : Closes .preToolUse block acc) :
    acc.permissionDecision = some .deny ↔ block.isSome = true := by
  rw [Option.isSome_iff_exists]
  constructor
  · intro hdeny
    exact h.block_of_denies (Or.inl hdeny)
  · rintro ⟨b, hb⟩
    exact (h.permission hb).1

/-- The same for the decision of a request. -/
theorem Closes.request_deny_iff (h : Closes .permissionRequest block acc) :
    (∃ d, acc.requestDecision = some d ∧ d.behavior = .deny)
      ↔ block.isSome = true := by
  rw [Option.isSome_iff_exists]
  constructor
  · intro hdeny
    exact h.block_of_denies (Or.inr hdeny)
  · rintro ⟨b, hb⟩
    obtain ⟨interrupt, hd⟩ := h.request hb
    exact ⟨_, hd, rfl⟩

end Accumulator

-- ========================================================= every point of it

/-- The end of a pass from nothing. -/
theorem Engine.runIn_closes (e : Engine) (world : World) (c : Context)
    (view : Fields) (selected : List Selected) :
    let run := e.runIn world c view {} selected
    run.progress.accumulator.Closes c.kind run.block := by
  intro run
  have hacc : run.progress.accumulator
      = Accumulator.applyAll {} (passWrites (e.act world c view) {} selected) :=
    runRules_accumulator _ _ _
  have hwrites : WritesFor c.kind (passWrites (e.act world c view) {} selected)
      (run.block.map (·.reason)) :=
    passWrites_for (e.act_keepsTo world c view) {} selected
  rw [hacc]
  constructor
  · intro hnone
    rw [hnone] at hwrites
    exact (Accumulator.Mild.empty c.kind).applyAll hwrites.all_mild
  · intro b hb
    rw [hb, Option.map_some] at hwrites
    obtain ⟨mild, interrupt, h, heq⟩ := hwrites.refusal_last
    rw [heq, Accumulator.applyAll_append]
    exact ⟨_, interrupt, (Accumulator.Mild.empty c.kind).applyAll h, rfl⟩

/-- At every point of a pass from nothing the accumulator holds only what the
event has a channel for. A refusal is on record only when the pass has ended in
a block; on the events that have a channel for refusals it is on record exactly
then, with the reason of the block. -/
theorem channels_at_every_point (e : Engine) (world : World) (c : Context)
    (view : Fields) (selected : List Selected) :
    let run := e.runIn world c view {} selected
    let writes := passWrites (e.act world c view) {} selected
    run.progress.accumulator = Accumulator.applyAll {} writes
      ∧ (∀ done, done <+: writes →
        (Accumulator.applyAll {} done).Within c.kind
          ∧ ((Accumulator.applyAll {} done).Denies →
            done = writes ∧ run.block.isSome))
      ∧ (c.kind = .preToolUse →
        (run.progress.accumulator.permissionDecision = some .deny
            ↔ run.block.isSome)
          ∧ ∀ b, run.block = some b →
            run.progress.accumulator.permissionReason = some b.reason)
      ∧ (c.kind = .permissionRequest →
        ((∃ d, run.progress.accumulator.requestDecision = some d
            ∧ d.behavior = .deny) ↔ run.block.isSome)
          ∧ ∀ b, run.block = some b →
            ∃ d, run.progress.accumulator.requestDecision = some d
              ∧ d.behavior = .deny ∧ d.message = some b.reason) := by
  intro run writes
  have hacc : run.progress.accumulator = Accumulator.applyAll {} writes :=
    runRules_accumulator _ _ _
  have hwrites : WritesFor c.kind writes (run.block.map (·.reason)) :=
    passWrites_for (e.act_keepsTo world c view) {} selected
  have hcloses : run.progress.accumulator.Closes c.kind run.block :=
    e.runIn_closes world c view selected
  refine ⟨hacc, ?_, ?_, ?_⟩
  · intro done hdone
    rcases hwrites.point hdone with hmild | ⟨rfl, hblock⟩
    · have hm := (Accumulator.Mild.empty c.kind).applyAll hmild
      exact ⟨hm.within, fun hdenies => absurd hdenies hm.not_denies⟩
    · rw [Option.isSome_map] at hblock
      obtain ⟨b, hb⟩ := Option.isSome_iff_exists.mp hblock
      obtain ⟨before, interrupt, hm, heq⟩ := hcloses.refused b hb
      refine ⟨?_, fun _ => ⟨rfl, hblock⟩⟩
      rw [← hacc, heq]
      exact hm.refusing_within b.reason interrupt
  · intro hk
    rw [hk] at hcloses
    exact ⟨hcloses.permission_deny_iff, fun b hb => (hcloses.permission hb).2⟩
  · intro hk
    rw [hk] at hcloses
    refine ⟨hcloses.request_deny_iff, ?_⟩
    intro b hb
    obtain ⟨interrupt, hd⟩ := hcloses.request hb
    exact ⟨_, hd, rfl, rfl⟩

end HookRules
