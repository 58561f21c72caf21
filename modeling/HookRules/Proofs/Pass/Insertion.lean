/-
Blocked passes with one rule more.

# Refusals are steadfast

An action may do something else when others ran before it, but whether it refuses
is told by its rule and itself (`Steadfast`). In surroundings that stay the same
this holds of every action (`Engine.act_steadfast`): all that an action sees of
what ran before it is the changed input, only a modification looks at that, and a
modification never refuses.

# What blocks

So whether a pass is blocked can be read off the rules in the order of running,
without running them. `Denied` says that there is a rule which refuses or is
labelled to block, and none before it refuses or is terminal; that is exactly when
a pass is blocked, from any start (`runRules_blocks_iff`). A rule more that is not
terminal stands before such a rule, behind it, or is one itself (`Denied.insert`).
-/
import HookRules.Proofs.Pass.WithoutFailed
import HookRules.Proofs.Selection.Order

namespace HookRules

-- ================================================================= refusals

/-- The reason of a refusal, if there is one, does not depend on the changed
input. -/
theorem contribution_refusal (o : Occasion) (updated updated' : Fields)
    (a : Action) :
    (contribution o updated a).ending.refusal?
      = (contribution o updated' a).ending.refusal? := by
  unfold contribution
  cases a.kind with
  | modify =>
      exact (Contribution.modify_refusal o updated a).trans
        (Contribution.modify_refusal o updated' a).symm
  | _ => rfl

section Rules

variable (act : Rule → Progress → Action → Contribution)

/-- Whether an action refuses, and why, is the same at every point of a pass. -/
def Steadfast : Prop :=
  ∀ r p q a, (act r p a).ending.refusal? = (act r q a).ending.refusal?

/-- An action of the rule refuses. -/
def Rule.Refuses (r : Rule) : Prop :=
  ∃ a ∈ r.actions, ∃ p, ((act r p a).ending.refusal?).isSome

/-- A rule that blocks an event if it runs. -/
def Rule.Denies (r : Rule) : Prop := r.Refuses act ∨ r.result = .block

/-- In the order of running some rule denies, and no rule before it ends the
pass. -/
inductive Denied : List Rule → Prop where
  | here {r : Rule} {rest : List Rule} (h : r.Denies act) : Denied (r :: rest)
  | later {r : Rule} {rest : List Rule} (hrefuses : ¬ r.Refuses act)
      (hterm : r.terminal = false) (h : Denied rest) : Denied (r :: rest)

variable {act}

/-- A rule that is not terminal cannot hide a denial. -/
theorem Denied.insert {first last : List Rule} {r : Rule}
    (hterm : r.terminal = false) (h : Denied act (first ++ last)) :
    Denied act (first ++ r :: last) := by
  induction first with
  | nil =>
      by_cases hrefuses : r.Refuses act
      · exact .here (Or.inl hrefuses)
      · exact .later hrefuses hterm h
  | cons s first ih =>
      cases h with
      | here hs => exact .here hs
      | later hrefuses hs hrest => exact .later hrefuses hs (ih hrest)

theorem denied_cons_iff {r : Rule} {rest : List Rule} :
    Denied act (r :: rest)
      ↔ r.Denies act
        ∨ ¬ r.Refuses act ∧ r.terminal = false ∧ Denied act rest := by
  constructor
  · rintro (hr | ⟨hrefuses, hterm, hrest⟩)
    · exact Or.inl hr
    · exact Or.inr ⟨hrefuses, hterm, hrest⟩
  · rintro (hr | ⟨hrefuses, hterm, hrest⟩)
    · exact .here hr
    · exact .later hrefuses hterm hrest

-- =================================================================== passes

/-- The run of actions ends in a refusal exactly if one of them refuses. -/
theorem runActions_refuses_iff {act : Progress → Action → Contribution}
    (hact : ∀ p q a,
      (act p a).ending.refusal? = (act q a).ending.refusal?)
    (p : Progress) (actions : List Action) :
    ((runActions act p actions).refusal).isSome
      ↔ ∃ a ∈ actions, ∃ q, ((act q a).ending.refusal?).isSome := by
  induction actions generalizing p with
  | nil => simp [runActions]
  | cons a rest ih =>
      cases hend : (act p a).ending.refusal? with
      | some reason =>
          rw [runActions_cons_of_refusal act rest
            (Ending.refusal?_eq_some_iff.mp hend)]
          refine ⟨fun _ => ⟨a, List.mem_cons_self .., p, ?_⟩, fun _ => rfl⟩
          rw [hend]
          rfl
      | none =>
          have hnever : ¬ ∃ q, ((act q a).ending.refusal?).isSome := by
            rintro ⟨q, hq⟩
            rw [← hact p q a, hend] at hq
            cases hq
          rw [runActions_cons_of_goes_on act rest hend]
          simp only [List.mem_cons, exists_eq_or_imp]
          exact (ih (p.add (act p a))).trans (or_iff_right hnever).symm

/-- A pass blocks the event, by a refusal or by the label of a rule. -/
def PassRun.Blocks (run : PassRun) : Prop :=
  run.block.isSome ∨ run.summary.shouldBlock = true

/-- A pass is blocked, wherever it starts, exactly if its rules are denied. -/
theorem runRules_blocks_iff (hact : Steadfast act) (p : Progress)
    (selected : List Selected) :
    (runRules act p selected).Blocks ↔ Denied act (selected.map (·.rule)) := by
  induction selected generalizing p with
  | nil =>
      constructor
      · rintro (h | h) <;> cases h
      · nofun
  | cons s rest ih =>
      have hrefuses := runActions_refuses_iff (hact s.rule) p s.rule.actions
      rw [List.map_cons, denied_cons_iff]
      cases href : (runActions (act s.rule) p s.rule.actions).refusal with
      | some reason =>
          rw [href] at hrefuses
          rw [(runRules_first_refuses rest href).1]
          exact ⟨fun _ => Or.inl (Or.inl (hrefuses.mp rfl)),
            fun _ => Or.inl rfl⟩
      | none =>
          rw [href] at hrefuses
          have hnever : ¬ s.rule.Refuses act :=
            fun h => Bool.false_ne_true (hrefuses.mpr h)
          have hdenies : s.rule.Denies act ↔ s.rule.result = .block :=
            or_iff_right hnever
          cases hterm : s.rule.terminal with
          | true =>
              rw [(runRules_first_terminal rest href hterm).1]
              simp [PassRun.Blocks, Summary.ofRule_shouldBlock, hdenies]
          | false =>
              have hrest :=
                ih (runActions (act s.rule) p s.rule.actions).progress
              rw [(runRules_first_goes_on rest href hterm).1, hdenies, ← hrest]
              simp [PassRun.Blocks, Summary.append, Summary.ofRule_shouldBlock,
                hnever, or_left_comm]

/-- A rule more in a list of rules, if it is not terminal, leaves a pass over
those that are selected blocked. -/
theorem Steadfast.blocks_insert (hact : Steadfast act) {registry : Registry}
    {k : EventKind} {view : Fields} {p : Progress} {before after : List Rule}
    {r : Rule} (hterm : r.terminal = false)
    (h : (runRules act p
      (Selection.select registry k view (before ++ after))).Blocks) :
    (runRules act p
      (Selection.select registry k view (before ++ r :: after))).Blocks := by
  rw [runRules_blocks_iff hact] at h ⊢
  rcases Selection.select_insert registry k view before after r with
    hsame | ⟨first, last, hwithout, hwith⟩
  · rw [hsame]
    exact h
  · rw [hwithout] at h
    rw [hwith]
    exact h.insert hterm

end Rules

-- ============================================================== evaluations

/-- In surroundings that stay the same refusals are steadfast. -/
theorem Engine.act_steadfast (e : Engine) (c : Context) (view : Fields) :
    Steadfast (e.act e.world c view) := by
  intro r p q a
  exact contribution_refusal (e.occasion (e.world p.steps) c view r) _ _ a

/-- An outcome is blocked exactly if its pass blocks. -/
theorem Engine.isBlocked_iff (e : Engine) (rules : List Rule) (c : Context)
    (clock : Clock) :
    (e.evaluateRules rules c clock).outcome.isBlocked = true
      ↔ (e.run c (c.view clock.running) {} (Selection.select (e.registry c)
          c.kind (c.view clock.matching) rules)).Blocks := by
  obtain ⟨hblock, hplace⟩ := e.outcome_summary e.world rules c clock
  unfold Engine.evaluateRules Outcome.isBlocked PassRun.Blocks Engine.run
  rcases hplace with ⟨hresult, hnone, -⟩ | ⟨-, hsome, -⟩
  · rw [← hblock, hnone, hresult]
    simp
  · rw [← hblock]
    simp [hsome]

/-- Blocking is monotone in the rules. Whatever actions contribute, if only their
refusals are steadfast: a rule more that is not terminal, at any place of a list
of rules and of any priority, leaves a blocked pass blocked. So it is with every
evaluation in surroundings that stay the same. -/
theorem insertion_keeps_block :
    (∀ (act : Rule → Progress → Action → Contribution) (registry : Registry)
        (k : EventKind) (view : Fields) (p : Progress) (before after : List Rule)
        (r : Rule), Steadfast act → r.terminal = false →
      (runRules act p
        (Selection.select registry k view (before ++ after))).Blocks →
      (runRules act p
        (Selection.select registry k view (before ++ r :: after))).Blocks)
    ∧ ∀ (e : Engine) (c : Context) (clock : Clock)
        (before after : List Rule) (r : Rule), r.terminal = false →
      (e.evaluateRules (before ++ after) c clock).outcome.isBlocked = true →
      (e.evaluateRules (before ++ r :: after) c clock).outcome.isBlocked
        = true := by
  constructor
  · intro act registry k view p before after r hact hterm hblocks
    exact hact.blocks_insert hterm hblocks
  · intro e c clock before after r hterm hblocked
    rw [Engine.isBlocked_iff] at hblocked ⊢
    exact (e.act_steadfast c _).blocks_insert hterm hblocked

/-- A rule of the highest priority that allows the call and changes its input
does not undo the block of a terminal rule behind it. -/
theorem block_behind_grant :
    let e : Engine :=
      { host := ⟨.empty, none, "/"⟩
        runner := fun _ => .ok ⟨0, .exited 0, [], []⟩ }
    let c := Context.ofEvent "/"
      ⟨{ sessionId := "s" }, .preToolUse ⟨"Bash", .null, none⟩⟩
    let blocking : Rule := { id := "no", terminal := true, result := .block }
    let granting : Rule :=
      { id := "yes", priority := .critical, actions :=
          [{ kind := .allow }, { kind := .modify, field := some "x" }] }
    granting.terminal = false
      ∧ (e.evaluateRules [blocking] c "").outcome.isBlocked = true
      ∧ (e.evaluateRules [blocking, granting] c "").outcome.isBlocked
        = true := by
  intro e c blocking granting
  have hterm : granting.terminal = false := rfl
  have hblocked : (e.evaluateRules [blocking] c "").outcome.isBlocked = true := by
    decide +kernel
  exact ⟨hterm, hblocked,
    insertion_keeps_block.2 e c "" [blocking] [] granting hterm hblocked⟩

end HookRules
