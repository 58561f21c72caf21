/-
What one document does to a set of rules.

A document that cannot be read does nothing. Any other replaces the settings that
it gives and adds its rules from the front, up to the first whose id is there
already, among the rules from before or among those just added
(`addRules_course`). What is added comes after what was there; so a document that
repeats an id has changed the set when it is refused, unless its very first rule
is the one refused and it gives no new settings (`refused_document_effect`).
-/
import HookRules.RuleSet

namespace HookRules

/-- A rule as a document adds it: it comes from where it says, or else from the
document. -/
def Rule.addedFrom (origin : String) (r : Rule) : Rule :=
  { r with sourceFile := some (r.sourceFile.getD origin) }

namespace RuleSet

-- ================================================================ adding rules

/-- Rules whose ids are pairwise distinct and not among those of a set. -/
structure AreNew (s : RuleSet) (rules : List Rule) : Prop where
  distinct : (rules.map (·.id)).Nodup
  absent : ∀ r ∈ rules, ∀ other ∈ s.rules, other.id ≠ r.id

/-- No rule at all is new to every set. -/
theorem AreNew.nil (s : RuleSet) : s.AreNew [] :=
  ⟨List.nodup_nil, nofun⟩

/-- A new rule in front of rules that are new after it was added. -/
theorem AreNew.cons {s : RuleSet} {origin : String} {r : Rule}
    {rules : List Rule} (hr : ∀ other ∈ s.rules, other.id ≠ r.id)
    (h : AreNew { s with rules := s.rules ++ [r.addedFrom origin] } rules) :
    s.AreNew (r :: rules) where
  distinct := by
    refine List.nodup_cons.mpr ⟨?_, h.distinct⟩
    intro hmem
    obtain ⟨q, hq, hid⟩ := List.mem_map.mp hmem
    refine h.absent q hq (r.addedFrom origin) ?_ hid.symm
    exact List.mem_append_right _ (List.mem_singleton.mpr rfl)
  absent q hq other hother := by
    rcases List.mem_cons.mp hq with rfl | hq
    · exact hr other hother
    · exact h.absent q hq other (List.mem_append_left _ hother)

/-- A rule with an id that is there ends the adding, and those after it are not
looked at. -/
theorem addRules_cons_of_known {origin : String} {s : RuleSet} {r other : Rule}
    (rest : List Rule)
    (h : s.rules.find? (fun other => other.id == r.id) = some other) :
    addRules origin s (r :: rest)
      = (s, some (.duplicate r.id (other.sourceFile.getD "") origin)) := by
  rw [addRules, h]

/-- A new rule is at the end of the set when the next one is looked at, so a
document cannot repeat an id of its own either. -/
theorem addRules_cons_of_new {origin : String} {s : RuleSet} {r : Rule}
    (rest : List Rule)
    (h : s.rules.find? (fun other => other.id == r.id) = none) :
    addRules origin s (r :: rest)
      = addRules origin { s with rules := s.rules ++ [r.addedFrom origin] }
        rest := by
  rw [addRules, h]
  rfl

/-- The rules of a document that were added are the new ones at its front. They
are all of them, or they end before one whose id is there already; then the fault
names the first rule with that id. -/
theorem addRules_course (origin : String) (s : RuleSet) (rules : List Rule) :
    ∃ taken, s.AreNew taken
      ∧ (addRules origin s rules).1
        = { s with rules := s.rules ++ taken.map (·.addedFrom origin) }
      ∧ ((rules = taken ∧ (addRules origin s rules).2 = none)
        ∨ ∃ r rest first, rules = taken ++ r :: rest
          ∧ (s.rules ++ taken.map (·.addedFrom origin)).find?
            (fun other => other.id == r.id) = some first
          ∧ (addRules origin s rules).2
            = some (.duplicate r.id (first.sourceFile.getD "") origin)) := by
  induction rules generalizing s with
  | nil => exact ⟨[], .nil s, by simp [addRules], Or.inl ⟨rfl, rfl⟩⟩
  | cons r rest ih =>
      cases hfind : s.rules.find? (fun other => other.id == r.id) with
      | some first =>
          refine ⟨[], .nil s, ?_, Or.inr ⟨r, rest, first, rfl, ?_, ?_⟩⟩
          · simp [addRules_cons_of_known rest hfind]
          · simpa using hfind
          · rw [addRules_cons_of_known rest hfind]
      | none =>
          obtain ⟨taken, hnew, hset, hend⟩ :=
            ih { s with rules := s.rules ++ [r.addedFrom origin] }
          have hr : ∀ other ∈ s.rules, other.id ≠ r.id := by
            intro other hother
            simpa using List.find?_eq_none.mp hfind other hother
          rw [addRules_cons_of_new rest hfind]
          simp only [List.append_assoc, List.singleton_append] at hset hend
          refine ⟨r :: taken, hnew.cons hr, hset, ?_⟩
          rcases hend with ⟨rfl, hnone⟩ | ⟨q, after, first, rfl, hfirst, hfault⟩
          · exact Or.inl ⟨rfl, hnone⟩
          · exact Or.inr ⟨q, after, first, rfl, hfirst, hfault⟩

-- ============================================================== one document

/-- What a document does: nothing if it cannot be read, and otherwise it changes
the settings and adds the rules at its front that are new. -/
theorem extend_course (s : RuleSet) (origin text : String) :
    (RuleFile.ofToml? text = none
        ∧ s.extend origin text = (s, some (.malformed origin)))
      ∨ ∃ file taken, RuleFile.ofToml? text = some file ∧ s.AreNew taken
        ∧ (s.extend origin text).1
          = ⟨file.settings.applyTo s.settings,
            s.rules ++ taken.map (·.addedFrom origin)⟩
        ∧ ((file.rules = taken ∧ (s.extend origin text).2 = none)
          ∨ ∃ r rest first, file.rules = taken ++ r :: rest
            ∧ (s.rules ++ taken.map (·.addedFrom origin)).find?
              (fun other => other.id == r.id) = some first
            ∧ (s.extend origin text).2
              = some (.duplicate r.id (first.sourceFile.getD "") origin)) := by
  unfold extend
  cases RuleFile.ofToml? text with
  | none => exact Or.inl ⟨rfl, rfl⟩
  | some file =>
      obtain ⟨taken, hnew, hset, hend⟩ := addRules_course origin
        { s with settings := file.settings.applyTo s.settings } file.rules
      exact Or.inr ⟨file, taken, rfl, ⟨hnew.distinct, hnew.absent⟩, hset, hend⟩

end RuleSet

-- ========================================================== refused documents

/-- What a refused document has done. One that cannot be read has done nothing.
One that repeats an id has replaced the settings that it gives and has added its
rules before the one refused, which are the new ones; the fault names the rule
that had the id first. So it has done nothing only if none of its rules stands
before the one refused and it gives no settings that were not there. -/
theorem refused_document_effect (s : RuleSet) (origin text : String)
    {fault : RuleSetFault} (h : (s.extend origin text).2 = some fault) :
    (RuleFile.ofToml? text = none ∧ fault = .malformed origin
        ∧ (s.extend origin text).1 = s)
      ∨ ∃ file before r rest first, RuleFile.ofToml? text = some file
        ∧ file.rules = before ++ r :: rest ∧ s.AreNew before
        ∧ (s.extend origin text).1
          = ⟨file.settings.applyTo s.settings,
            s.rules ++ before.map (·.addedFrom origin)⟩
        ∧ (s.extend origin text).1.rules.find? (fun other => other.id == r.id)
          = some first
        ∧ fault = .duplicate r.id (first.sourceFile.getD "") origin
        ∧ ((s.extend origin text).1 = s
          ↔ before = [] ∧ file.settings.applyTo s.settings = s.settings) := by
  rcases s.extend_course origin text with ⟨hfile, hextend⟩
    | ⟨file, before, hfile, hnew, hset, hend⟩
  · rw [hextend] at h ⊢
    exact Or.inl ⟨hfile, (Option.some.inj h).symm, rfl⟩
  · rcases hend with ⟨-, hnone⟩ | ⟨r, rest, first, hrules, hfirst, hfault⟩
    · rw [hnone] at h
      cases h
    · rw [hfault] at h
      refine Or.inr ⟨file, before, r, rest, first, hfile, hrules, hnew, hset, ?_,
        (Option.some.inj h).symm, ?_⟩
      · rw [hset]
        exact hfirst
      · rw [hset]
        obtain ⟨settings, rules⟩ := s
        simp [and_comm]

/-- A document that repeats an id after a setting and a rule of its own, for a set
with one rule. -/
theorem refused_document_of_two_rules :
    let s : RuleSet := { rules := [{ id := "a", sourceFile := some "one.toml" }] }
    let text := "[settings]\ntimeout_ms = 900\n\n[[rules]]\nid = \"b\"\n\n"
      ++ "[[rules]]\nid = \"a\"\n"
    (s.extend "two.toml" text).2 = some (.duplicate "a" "one.toml" "two.toml")
      ∧ (s.extend "two.toml" text).1 ≠ s
      ∧ ∃ before : List Rule, (s.extend "two.toml" text).1.rules
        = s.rules ++ before.map (·.addedFrom "two.toml") := by
  intro s text
  have hfault : (s.extend "two.toml" text).2
      = some (.duplicate "a" "one.toml" "two.toml") := by
    decide +kernel
  have hsettings : (s.extend "two.toml" text).1.settings
      = { timeoutMs := 900 } := by
    decide +kernel
  rcases refused_document_effect s "two.toml" text hfault with
    ⟨-, hmalformed, -⟩ | ⟨file, before, r, rest, first, -, -, -, hset, -, -, hiff⟩
  · cases hmalformed
  · refine ⟨hfault, ?_, before, by rw [hset]⟩
    intro hsame
    have hkept := (hiff.mp hsame).2
    rw [hset] at hsettings
    exact absurd (hsettings.symm.trans hkept) (by decide)

/-- A refused document does not leave a set as it was: this one has replaced a
setting and added a rule. -/
theorem repeated_id_leaves_half_a_document :
    let s : RuleSet := { rules := [{ id := "a", sourceFile := some "one.toml" }] }
    let text := "[settings]\ntimeout_ms = 900\n\n[[rules]]\nid = \"b\"\n\n"
      ++ "[[rules]]\nid = \"a\"\n"
    (s.extend "two.toml" text).2 = some (.duplicate "a" "one.toml" "two.toml")
      ∧ (s.extend "two.toml" text).1.settings ≠ s.settings
      ∧ (s.extend "two.toml" text).1.rules.map (·.id) ≠ s.rules.map (·.id) := by
  decide +kernel

end HookRules
