/-
Passes without an action that failed.

# What an action sees

In surroundings that stay the same an action sees the input that the actions
before it changed, and nothing else of what they did. Two starts with the same
changed input (`SameInput`) therefore make the same run: the same records, the
same refusal and the same writes, one by one (`runActions_agrees`,
`runRules_agrees`). Only what was on the accumulator before is different.

# Leaving an action out

A failed action changes no input, so the pass goes on after it as it would have
gone on without it. `runActions_without` and `runRules_without` say what becomes
of the run when the action is left out: its record goes, and its own writes go
from the middle of the writes. A failed action writes nothing, or one message, so
the accumulator at the end differs by that message at most
(`failed_action_leaves_no_trace`).
-/
import HookRules.Proofs.Contribution.Failure
import HookRules.Proofs.Pass.Course
import HookRules.Proofs.Pass.Writes

namespace HookRules

-- ===================================================== the same changed input

/-- Two points of passes at which an action sees the same. -/
def SameInput (p q : Progress) : Prop :=
  p.accumulator.updatedInput = q.accumulator.updatedInput

/-- Effects change the input by what it was. -/
theorem Accumulator.applyAll_updatedInput {acc acc' : Accumulator}
    (h : acc.updatedInput = acc'.updatedInput) (effects : List Effect) :
    (acc.applyAll effects).updatedInput
      = (acc'.applyAll effects).updatedInput := by
  induction effects generalizing acc acc' with
  | nil => exact h
  | cons e rest ih =>
      refine ih ?_
      cases e with
      | field name value => exact congrArg (Fields.insert name value) h
      | _ => exact h

/-- The same contribution leads to the same changed input. -/
theorem SameInput.add {p q : Progress} (h : SameInput p q) (c : Contribution) :
    SameInput (p.add c) (q.add c) :=
  Accumulator.applyAll_updatedInput h c.effects

-- =================================================== runs that see the same

section Actions

variable {act : Progress → Action → Contribution}

theorem actionWrites_cons_of_goes_on {p : Progress} {a : Action}
    (rest : List Action) (h : (act p a).ending.refusal? = none) :
    actionWrites act p (a :: rest)
      = (act p a).effects ++ actionWrites act (p.add (act p a)) rest := by
  rw [actionWrites, h]

/-- Actions that see the same do the same. -/
theorem runActions_agrees
    (hact : ∀ p q a, SameInput p q → act p a = act q a) {p q : Progress}
    (h : SameInput p q) (actions : List Action) :
    (runActions act p actions).records = (runActions act q actions).records
      ∧ (runActions act p actions).refusal
        = (runActions act q actions).refusal
      ∧ actionWrites act p actions = actionWrites act q actions := by
  induction actions generalizing p q with
  | nil => exact ⟨rfl, rfl, rfl⟩
  | cons a rest ih =>
      have hsame := hact p q a h
      cases hgo : (act q a).ending.refusal? with
      | none =>
          have hgo' : (act p a).ending.refusal? = none := by rw [hsame, hgo]
          obtain ⟨hrecords, hrefusal, hwrites⟩ := ih (h.add (act q a))
          rw [runActions_cons_of_goes_on act rest hgo',
            runActions_cons_of_goes_on act rest hgo,
            actionWrites_cons_of_goes_on rest hgo',
            actionWrites_cons_of_goes_on rest hgo, hsame]
          exact ⟨congrArg (List.cons _) hrecords, hrefusal,
            congrArg (List.append _) hwrites⟩
      | some reason =>
          have hend := Ending.refusal?_eq_some_iff.mp hgo
          have hend' : (act p a).ending = .blocked reason := by rw [hsame, hend]
          rw [runActions_cons_of_refusal act rest hend',
            runActions_cons_of_refusal act rest hend, actionWrites,
            actionWrites, hsame, hgo]
          exact ⟨rfl, rfl, rfl⟩

/-- The same writes lead to the same changed input. -/
theorem runActions_sameInput {p q : Progress} (h : SameInput p q)
    {actions actions' : List Action}
    (hwrites : actionWrites act p actions = actionWrites act q actions') :
    SameInput (runActions act p actions).progress
      (runActions act q actions').progress := by
  unfold SameInput
  rw [runActions_accumulator, runActions_accumulator, hwrites]
  exact Accumulator.applyAll_updatedInput h _

/-- The run of actions without one that failed: its record is left out, and what
it wrote itself. -/
theorem runActions_without
    (hact : ∀ p q a, SameInput p q → act p a = act q a)
    (hfail : ∀ p a fault, (act p a).ending = .failed fault →
      SameInput (p.add (act p a)) p)
    (p : Progress) (front back : List Action) (a : Action) {message : String}
    (herror : ((runActions act p
      (front ++ a :: back)).records[front.length]?).bind (·.error)
        = some message) :
    (runActions act p (front ++ back)).records
        = (runActions act p (front ++ a :: back)).records.eraseIdx front.length
      ∧ (runActions act p (front ++ back)).refusal
        = (runActions act p (front ++ a :: back)).refusal
      ∧ SameInput (runActions act p (front ++ a :: back)).progress
        (runActions act p (front ++ back)).progress
      ∧ ∃ q fault first later, (act q a).ending = .failed fault
        ∧ actionWrites act p (front ++ a :: back)
          = first ++ (act q a).effects ++ later
        ∧ actionWrites act p (front ++ back) = first ++ later := by
  induction front generalizing p with
  | nil =>
      have hfailed : ∃ fault, (act p a).ending = .failed fault := by
        rw [List.nil_append, runActions] at herror
        cases hend : (act p a).ending with
        | failed fault => exact ⟨fault, rfl⟩
        | done => rw [hend] at herror; cases herror
        | blocked reason => rw [hend] at herror; cases herror
      obtain ⟨fault, hend⟩ := hfailed
      have hgo : (act p a).ending.refusal? = none := by rw [hend]; rfl
      have hsame := hfail p a fault hend
      obtain ⟨hrecords, hrefusal, hwrites⟩ := runActions_agrees hact hsame back
      rw [List.nil_append, List.nil_append,
        runActions_cons_of_goes_on act back hgo,
        actionWrites_cons_of_goes_on back hgo]
      refine ⟨hrecords.symm, hrefusal.symm, runActions_sameInput hsame hwrites,
        p, fault, [], actionWrites act p back, hend, ?_, rfl⟩
      rw [hwrites, List.nil_append]
  | cons b front ih =>
      rw [List.cons_append] at herror
      cases hgo : (act p b).ending.refusal? with
      | some reason =>
          rw [runActions_cons_of_refusal act _ (Ending.refusal?_eq_some_iff.mp hgo)]
            at herror
          cases herror
      | none =>
          rw [runActions_cons_of_goes_on act _ hgo] at herror
          obtain ⟨hrecords, hrefusal, hsame, q, fault, first, later, hend,
            hwrites, hwrites'⟩ := ih (p.add (act p b)) herror
          rw [List.cons_append, List.cons_append,
            runActions_cons_of_goes_on act _ hgo,
            runActions_cons_of_goes_on act _ hgo,
            actionWrites_cons_of_goes_on _ hgo,
            actionWrites_cons_of_goes_on _ hgo]
          refine ⟨congrArg _ hrecords, hrefusal, hsame, q, fault,
            (act p b).effects ++ first, later, hend, ?_, ?_⟩
          · rw [hwrites]
            simp only [List.append_assoc]
          · rw [hwrites', List.append_assoc]

end Actions

-- ================================================================== summaries

/-- A rule with other actions. -/
def Selected.withActions (s : Selected) (actions : List Action) : Selected :=
  { s with rule := { s.rule with actions := actions } }

/-- A summary without the record of one action. -/
def Summary.withoutRecord (s : Summary) (i j : Nat) : Summary :=
  { s with rules := s.rules.modify i fun r =>
      { r with actions := r.actions.eraseIdx j } }

/-- The error of an action of a pass, by its place in its rule and the place of
the rule. -/
def PassRun.error? (run : PassRun) (i j : Nat) : Option String :=
  (run.summary.rules[i]?).bind fun r => (r.actions[j]?).bind (·.error)

/-- Which actions a rule has is no matter for what it adds. -/
theorem Summary.ofRule_withActions (s : Selected) (actions : List Action)
    (record : RuleRecord) :
    Summary.ofRule (s.withActions actions).rule record
      = Summary.ofRule s.rule record := rfl

/-- The record of an action of the first rule. -/
theorem Summary.withoutRecord_zero (r : Rule) (record : RuleRecord)
    (later : Summary) (j : Nat) :
    ((Summary.ofRule r record).append later).withoutRecord 0 j
      = (Summary.ofRule r { record with
          actions := record.actions.eraseIdx j }).append later := by
  unfold Summary.ofRule
  cases r.result <;> rfl

/-- The record of an action of a later rule. -/
theorem Summary.withoutRecord_succ (r : Rule) (record : RuleRecord)
    (later : Summary) (i j : Nat) :
    ((Summary.ofRule r record).append later).withoutRecord (i + 1) j
      = (Summary.ofRule r record).append (later.withoutRecord i j) := by
  unfold Summary.ofRule
  cases r.result <;> rfl

-- ===================================================================== rules

section Rules

variable {act : Rule → Progress → Action → Contribution}

/-- What an action contributes depends on the id of its rule and on the changed
input that it sees. -/
def Steady (act : Rule → Progress → Action → Contribution) : Prop :=
  ∀ r r' p q a, r.id = r'.id → SameInput p q → act r p a = act r' q a

/-- A first rule that refuses is all that runs. -/
theorem runRules_first_refuses {p : Progress} {s : Selected}
    (rest : List Selected) {reason : String}
    (h : (runActions (act s.rule) p s.rule.actions).refusal = some reason) :
    runRules act p (s :: rest)
        = { progress := (runActions (act s.rule) p s.rule.actions).progress
            summary := { rules :=
              [s.record (runActions (act s.rule) p s.rule.actions).records] }
            block := some ⟨reason, s.rule.id⟩ }
      ∧ passWrites act p (s :: rest)
        = actionWrites (act s.rule) p s.rule.actions := by
  rw [runRules, passWrites, h]
  exact ⟨rfl, List.append_nil _⟩

/-- So is a first rule that is terminal. -/
theorem runRules_first_terminal {p : Progress} {s : Selected}
    (rest : List Selected)
    (h : (runActions (act s.rule) p s.rule.actions).refusal = none)
    (hterm : s.rule.terminal = true) :
    runRules act p (s :: rest)
        = { progress := (runActions (act s.rule) p s.rule.actions).progress
            summary := { Summary.ofRule s.rule
              (s.record (runActions (act s.rule) p s.rule.actions).records) with
                terminatedEarly := !rest.isEmpty } }
      ∧ passWrites act p (s :: rest)
        = actionWrites (act s.rule) p s.rule.actions := by
  rw [runRules, passWrites, h, hterm]
  exact ⟨rfl, List.append_nil _⟩

/-- After any other first rule the rest runs. -/
theorem runRules_first_goes_on {p : Progress} {s : Selected}
    (rest : List Selected)
    (h : (runActions (act s.rule) p s.rule.actions).refusal = none)
    (hterm : s.rule.terminal = false) :
    runRules act p (s :: rest)
        = { runRules act (runActions (act s.rule) p s.rule.actions).progress
              rest with
            summary := (Summary.ofRule s.rule
              (s.record (runActions (act s.rule) p s.rule.actions).records)).append
                (runRules act (runActions (act s.rule) p s.rule.actions).progress
                  rest).summary }
      ∧ passWrites act p (s :: rest)
        = actionWrites (act s.rule) p s.rule.actions
          ++ passWrites act (runActions (act s.rule) p s.rule.actions).progress
            rest := by
  rw [runRules, passWrites, h, hterm]
  exact ⟨rfl, rfl⟩

/-- Rules that see the same do the same. -/
theorem runRules_agrees (hact : Steady act) {p q : Progress}
    (h : SameInput p q) (selected : List Selected) :
    (runRules act p selected).summary = (runRules act q selected).summary
      ∧ (runRules act p selected).block = (runRules act q selected).block
      ∧ passWrites act p selected = passWrites act q selected := by
  induction selected generalizing p q with
  | nil => exact ⟨rfl, rfl, rfl⟩
  | cons s rest ih =>
      obtain ⟨hrecords, hrefusal, hwrites⟩ := runActions_agrees
        (fun p q a => hact s.rule s.rule p q a rfl) h s.rule.actions
      obtain ⟨hsummary, hblock, hlater⟩ := ih (runActions_sameInput h hwrites)
      cases href : (runActions (act s.rule) q s.rule.actions).refusal with
      | some reason =>
          obtain ⟨hrun, hall⟩ := runRules_first_refuses rest href
          obtain ⟨hrun', hall'⟩ :=
            runRules_first_refuses rest (hrefusal.trans href)
          rw [hrun, hrun', hall, hall', hrecords, hwrites]
          exact ⟨rfl, rfl, rfl⟩
      | none =>
          cases hterm : s.rule.terminal with
          | true =>
              obtain ⟨hrun, hall⟩ := runRules_first_terminal rest href hterm
              obtain ⟨hrun', hall'⟩ :=
                runRules_first_terminal rest (hrefusal.trans href) hterm
              rw [hrun, hrun', hall, hall', hrecords, hwrites]
              exact ⟨rfl, rfl, rfl⟩
          | false =>
              obtain ⟨hrun, hall⟩ := runRules_first_goes_on rest href hterm
              obtain ⟨hrun', hall'⟩ :=
                runRules_first_goes_on rest (hrefusal.trans href) hterm
              rw [hrun, hrun', hall, hall', hrecords, hwrites, hsummary, hblock,
                hlater]
              exact ⟨rfl, rfl, rfl⟩

/-- The errors of the first rule are those of the run of its actions. -/
theorem runRules_first_error (p : Progress) (s : Selected)
    (rest : List Selected) (j : Nat) :
    (runRules act p (s :: rest)).error? 0 j
      = ((runActions (act s.rule) p s.rule.actions).records[j]?).bind
          (·.error) := by
  cases href : (runActions (act s.rule) p s.rule.actions).refusal with
  | some reason =>
      rw [(runRules_first_refuses rest href).1]
      rfl
  | none =>
      cases hterm : s.rule.terminal with
      | true =>
          rw [(runRules_first_terminal rest href hterm).1]
          simp [PassRun.error?, Summary.ofRule_rules, Selected.record]
      | false =>
          rw [(runRules_first_goes_on rest href hterm).1]
          simp [PassRun.error?, Summary.append, Summary.ofRule_rules,
            Selected.record]

/-- A later rule has errors only if the first one goes on, and then those of the
run of the rest. -/
theorem runRules_later_error {p : Progress} {s : Selected}
    {rest : List Selected} {i j : Nat} {message : String}
    (h : (runRules act p (s :: rest)).error? (i + 1) j = some message) :
    (runActions (act s.rule) p s.rule.actions).refusal = none
      ∧ s.rule.terminal = false
      ∧ (runRules act (runActions (act s.rule) p s.rule.actions).progress
          rest).error? i j = some message := by
  cases href : (runActions (act s.rule) p s.rule.actions).refusal with
  | some reason =>
      rw [(runRules_first_refuses rest href).1] at h
      cases h
  | none =>
      cases hterm : s.rule.terminal with
      | true =>
          rw [(runRules_first_terminal rest href hterm).1] at h
          simp [PassRun.error?, Summary.ofRule_rules] at h
      | false =>
          rw [(runRules_first_goes_on rest href hterm).1] at h
          simp only [PassRun.error?, Summary.append, Summary.ofRule_rules,
            List.singleton_append, List.getElem?_cons_succ] at h
          exact ⟨rfl, rfl, h⟩

/-- The pass of a first rule with other actions, whose run does the same but for
one record and some of the writes. -/
theorem runRules_first_without (hact : Steady act) {p : Progress}
    {s : Selected} (after : List Selected) {actions : List Action} {j : Nat}
    {first own later : List Effect}
    (hrecords : (runActions (act s.rule) p actions).records
      = (runActions (act s.rule) p s.rule.actions).records.eraseIdx j)
    (hrefusal : (runActions (act s.rule) p actions).refusal
      = (runActions (act s.rule) p s.rule.actions).refusal)
    (hsame : SameInput (runActions (act s.rule) p s.rule.actions).progress
      (runActions (act s.rule) p actions).progress)
    (hwrites : actionWrites (act s.rule) p s.rule.actions
      = first ++ own ++ later)
    (hwrites' : actionWrites (act s.rule) p actions = first ++ later) :
    (runRules act p (s.withActions actions :: after)).summary
        = (runRules act p (s :: after)).summary.withoutRecord 0 j
      ∧ (runRules act p (s.withActions actions :: after)).block
        = (runRules act p (s :: after)).block
      ∧ ∃ rest, passWrites act p (s :: after) = first ++ own ++ rest
        ∧ passWrites act p (s.withActions actions :: after) = first ++ rest := by
  have hrule : act (s.withActions actions).rule = act s.rule :=
    funext fun p => funext fun a => hact _ _ p p a rfl rfl
  have hactions : (s.withActions actions).rule.actions = actions := rfl
  have href' : (runActions (act (s.withActions actions).rule) p
        (s.withActions actions).rule.actions).refusal
      = (runActions (act s.rule) p s.rule.actions).refusal := by
    rw [hrule, hactions, hrefusal]
  cases href : (runActions (act s.rule) p s.rule.actions).refusal with
  | some reason =>
      obtain ⟨hrun, hall⟩ := runRules_first_refuses after href
      obtain ⟨hrun', hall'⟩ := runRules_first_refuses after (href'.trans href)
      rw [hrun, hrun', hall, hall', hrule, hactions, hrecords]
      exact ⟨rfl, rfl, later, hwrites, hwrites'⟩
  | none =>
      cases hterm : s.rule.terminal with
      | true =>
          obtain ⟨hrun, hall⟩ := runRules_first_terminal after href hterm
          obtain ⟨hrun', hall'⟩ :=
            runRules_first_terminal after (href'.trans href) hterm
          rw [hrun, hrun', hall, hall', hrule, hactions, hrecords]
          refine ⟨?_, rfl, later, hwrites, hwrites'⟩
          rw [Summary.ofRule_withActions]
          unfold Summary.ofRule
          cases s.rule.result <;> rfl
      | false =>
          obtain ⟨hrun, hall⟩ := runRules_first_goes_on after href hterm
          obtain ⟨hrun', hall'⟩ :=
            runRules_first_goes_on after (href'.trans href) hterm
          obtain ⟨hsummary, hblock, hrest⟩ := runRules_agrees hact hsame after
          rw [hrun, hrun', hall, hall', hrule, hactions, hrecords, hsummary,
            hblock, hrest, hwrites, hwrites']
          refine ⟨?_, rfl, _, List.append_assoc .., List.append_assoc ..⟩
          exact (Summary.withoutRecord_zero s.rule
            (s.record (runActions (act s.rule) p s.rule.actions).records) _ j).symm

/-- The run of rules without an action that failed: its record is left out, and
what it wrote itself. -/
theorem runRules_without (hact : Steady act)
    (hfail : ∀ r p a fault, (act r p a).ending = .failed fault →
      SameInput (p.add (act r p a)) p)
    (p : Progress) (before after : List Selected) {s : Selected}
    {front back : List Action} {a : Action} {message : String}
    (hactions : s.rule.actions = front ++ a :: back)
    (herror : (runRules act p (before ++ s :: after)).error? before.length
      front.length = some message) :
    (runRules act p (before ++ s.withActions (front ++ back) :: after)).summary
        = (runRules act p (before ++ s :: after)).summary.withoutRecord
            before.length front.length
      ∧ (runRules act p (before ++ s.withActions (front ++ back) :: after)).block
        = (runRules act p (before ++ s :: after)).block
      ∧ ∃ q fault first later, (act s.rule q a).ending = .failed fault
        ∧ passWrites act p (before ++ s :: after)
          = first ++ (act s.rule q a).effects ++ later
        ∧ passWrites act p (before ++ s.withActions (front ++ back) :: after)
          = first ++ later := by
  induction before generalizing p with
  | nil =>
      rw [List.nil_append, List.length_nil, runRules_first_error, hactions]
        at herror
      obtain ⟨hrecords, hrefusal, hsame, q, fault, first, later, hend, hwrites,
        hwrites'⟩ := runActions_without
          (fun p q a => hact s.rule s.rule p q a rfl) (hfail s.rule) p front back
          a herror
      rw [← hactions] at hrecords hrefusal hsame hwrites
      obtain ⟨hsummary, hblock, rest, hall, hall'⟩ := runRules_first_without
        hact after hrecords hrefusal hsame hwrites hwrites'
      exact ⟨hsummary, hblock, q, fault, first, rest, hend, hall, hall'⟩
  | cons t before ih =>
      obtain ⟨href, hterm, herror'⟩ := runRules_later_error herror
      obtain ⟨hsummary, hblock, q, fault, first, later, hend, hwrites, hwrites'⟩
        := ih _ herror'
      obtain ⟨hrun, hall⟩ :=
        runRules_first_goes_on (before ++ s :: after) href hterm
      obtain ⟨hrunw, hallw⟩ := runRules_first_goes_on
        (before ++ s.withActions (front ++ back) :: after) href hterm
      rw [List.cons_append, List.cons_append, hrun, hrunw, hall, hallw,
        hsummary, hblock, hwrites, hwrites']
      refine ⟨(Summary.withoutRecord_succ ..).symm, rfl, q, fault,
        actionWrites (act t.rule) p t.rule.actions ++ first, later, hend, ?_, ?_⟩
      · simp only [List.append_assoc]
      · rw [List.append_assoc]

end Rules

-- ================================================================ accumulators

/-- The texts of messages among effects. -/
def messageTexts : List Effect → List String
  | [] => []
  | .message text :: rest => text :: messageTexts rest
  | _ :: rest => messageTexts rest

/-- Messages on the accumulator are no matter for other effects, and stay before
those that come. -/
theorem Accumulator.applyAll_messages (acc : Accumulator)
    (messages : List String) (effects : List Effect) :
    Accumulator.applyAll { acc with systemMessages := messages } effects
      = { acc.applyAll effects with
          systemMessages := messages ++ messageTexts effects } := by
  induction effects generalizing acc messages with
  | nil =>
      rw [messageTexts, List.append_nil]
      rfl
  | cons e rest ih =>
      cases e with
      | message text =>
          refine (ih (acc.apply (.message text)) (messages ++ [text])).trans ?_
          rw [messageTexts, List.append_assoc]
          rfl
      | permission decision reason =>
          exact ih (acc.apply (.permission decision reason)) messages
      | answer decision => exact ih (acc.apply (.answer decision)) messages
      | context text => exact ih (acc.apply (.context text)) messages
      | field name value => exact ih (acc.apply (.field name value)) messages

/-- One message more in the middle of effects. -/
theorem Accumulator.applyAll_insert_message (acc : Accumulator)
    (first later : List Effect) (text : String) :
    ∃ before after,
      (acc.applyAll (first ++ later)).systemMessages = before ++ after
        ∧ acc.applyAll (first ++ [.message text] ++ later)
          = { acc.applyAll (first ++ later) with
              systemMessages := before ++ text :: after } := by
  refine ⟨(acc.applyAll first).systemMessages, messageTexts later, ?_, ?_⟩
  · rw [applyAll_append]
    exact congrArg systemMessages (applyAll_messages (acc.applyAll first)
      (acc.applyAll first).systemMessages later)
  · rw [applyAll_append, applyAll_append, applyAll_append]
    refine (applyAll_messages (acc.applyAll first)
      ((acc.applyAll first).systemMessages ++ [text]) later).trans ?_
    rw [List.append_assoc]
    rfl

-- =================================================================== a pass

/-- In surroundings that stay the same an action sees the id of its rule and the
changed input. -/
theorem Engine.act_steady (e : Engine) (c : Context) (view : Fields) :
    Steady (e.act e.world c view) := by
  intro r r' p q a hid hsame
  unfold Engine.act
  have hbare : (e.occasion (e.world p.steps) c view r).bare
      = (e.occasion (e.world q.steps) c view r').bare := by
    show { e.occasion _ c view r with rule := { id := r.id } } = _
    rw [hid]
    rfl
  rw [← contribution_of_id, hbare, contribution_of_id, hsame]

/-- What a failed action wrote. -/
theorem Engine.act_of_failed {e : Engine} {c : Context} {view : Fields}
    {r : Rule} {p : Progress} {a : Action} {fault : ActionFault}
    (h : (e.act e.world c view r p a).ending = .failed fault) :
    (e.act e.world c view r p a).effects = []
      ∨ ∃ text, ShowsError (e.occasion (e.world p.steps) c view r) a text
        ∧ (e.act e.world c view r p a).effects = [.message text] :=
  contribution_of_failed h

/-- Whatever an action fails with, from any start of a pass and at any place in
it: the same pass without the action has the same block and the same summary but
for the record of the action, and it ends in the same accumulator. Only the
standard error of a program that an action shows as a message can be missing
there, which is one message; nothing else is different. -/
theorem failed_action_leaves_no_trace (e : Engine) (c : Context) (view : Fields)
    (p : Progress) (before after : List Selected) (s : Selected)
    (front back : List Action) (a : Action) (message : String)
    (hactions : s.rule.actions = front ++ a :: back)
    (herror : (e.run c view p (before ++ s :: after)).error? before.length
      front.length = some message) :
    let run := e.run c view p (before ++ s :: after)
    let without :=
      e.run c view p (before ++ s.withActions (front ++ back) :: after)
    without.block = run.block
      ∧ without.summary = run.summary.withoutRecord before.length front.length
      ∧ (without.progress.accumulator = run.progress.accumulator
        ∨ ∃ text earlier later,
          ShowsError
              (e.occasion ⟨e.entrypoints, e.host, e.runner⟩ c view s.rule) a text
            ∧ without.progress.accumulator.systemMessages = earlier ++ later
            ∧ run.progress.accumulator
              = { without.progress.accumulator with
                  systemMessages := earlier ++ text :: later }) := by
  intro run without
  have hfail : ∀ r p a fault,
      (e.act e.world c view r p a).ending = .failed fault →
        SameInput (p.add (e.act e.world c view r p a)) p := by
    intro r p a fault hend
    unfold SameInput Progress.add
    rcases e.act_of_failed hend with hnone | ⟨text, -, hone⟩
    · rw [hnone]
      rfl
    · rw [hone]
      rfl
  obtain ⟨hsummary, hblock, q, fault, first, later, hend, hwrites, hwrites'⟩ :=
    runRules_without (e.act_steady c view) hfail p before after hactions herror
  refine ⟨hblock, hsummary, ?_⟩
  have hrun : run.progress.accumulator = p.accumulator.applyAll
      (first ++ (e.act e.world c view s.rule q a).effects ++ later) := by
    rw [← hwrites]
    exact runRules_accumulator _ p _
  have hwithout : without.progress.accumulator
      = p.accumulator.applyAll (first ++ later) := by
    rw [← hwrites']
    exact runRules_accumulator _ p _
  rcases e.act_of_failed hend with hnone | ⟨text, hshows, hone⟩
  · left
    rw [hrun, hwithout, hnone, List.append_nil]
  · right
    obtain ⟨earlier, rest, hmessages, hall⟩ :=
      p.accumulator.applyAll_insert_message first later text
    refine ⟨text, earlier, rest, hshows, ?_, ?_⟩
    · rw [hwithout, hmessages]
    · rw [hrun, hone, hwithout, hall]

/-- A program that ends with status 1 leaves what it said, and the warning after
it is shown all the same. -/
theorem failed_program_leaves_message :
    let e : Engine :=
      { host := ⟨.empty, none, "/"⟩
        runner := fun _ => .ok ⟨0, .exited 1, [], [110, 111, 10]⟩ }
    let c := Context.ofEvent "/" ⟨{ sessionId := "s" }, .stop false⟩
    let failing : Action :=
      { kind := .shell, command := some "check", stderr := some .appendToStdout }
    let warning : Action := { kind := .warn }
    let s : Selected := ⟨{ id := "r", actions := [failing, warning] }, 0⟩
    let run := e.run c [] {} [s]
    let without := e.run c [] {} [s.withActions [warning]]
    run.error? 0 0 = some "Execution failed: exited with status 1"
      ∧ without.block = run.block
      ∧ without.summary = run.summary.withoutRecord 0 0
      ∧ (without.progress.accumulator = run.progress.accumulator
        ∨ ∃ text earlier later,
          ShowsError
              (e.occasion ⟨e.entrypoints, e.host, e.runner⟩ c [] s.rule) failing
              text
            ∧ without.progress.accumulator.systemMessages = earlier ++ later
            ∧ run.progress.accumulator
              = { without.progress.accumulator with
                  systemMessages := earlier ++ text :: later }) := by
  intro e c failing warning s run without
  have herror : run.error? 0 0
      = some "Execution failed: exited with status 1" := by decide +kernel
  exact ⟨herror, failed_action_leaves_no_trace e c [] {} [] [] s [] [warning]
    failing _ rfl herror⟩

end HookRules
