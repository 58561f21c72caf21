/-
Sets of rules over documents that are added one after another.

# What every step keeps

Whatever the documents are, a step adds rules at the end and takes none away, and
what it adds are new rules that know where they come from. So from the empty set
on, the ids stay distinct and every rule has a source (`Sound.extend`,
`extendAll_sound`).

# What a history without faults adds up to

If no step has a fault, each document was read and all of its rules were added
(`extend_of_no_fault`), so the rules are those of the documents in order. A
setting is overwritten by each document that gives it; what is left is what the
last of them gave, or the value from before all of them.
-/
import HookRules.Proofs.RuleSet.Extension

namespace HookRules

/-- The text of a document and the name of the place where it is from. -/
structure Document where
  origin : String
  text : String

/-- The rules of a document; one that cannot be read has none. -/
def Document.rules (d : Document) : List Rule :=
  ((RuleFile.ofToml? d.text).map (·.rules)).getD []

namespace RuleSet

/-- Extends a set by documents in turn, whether or not each can be added as a
whole, and tells of each what was wrong with it. -/
def extendAll (s : RuleSet) : List Document → RuleSet × List (Option RuleSetFault)
  | [] => (s, [])
  | d :: docs =>
    let step := s.extend d.origin d.text
    let later := extendAll step.1 docs
    (later.1, step.2 :: later.2)

/-- A document at the end of a history meets the set that the others have left. -/
theorem extendAll_snoc (s : RuleSet) (docs : List Document) (d : Document) :
    (s.extendAll (docs ++ [d])).1
      = ((s.extendAll docs).1.extend d.origin d.text).1 := by
  induction docs generalizing s with
  | nil => rfl
  | cons first docs ih => exact ih _

-- ================================================================== every step

/-- The ids of a set are distinct, and each of its rules has a source. -/
structure Sound (s : RuleSet) : Prop where
  distinct : (s.rules.map (·.id)).Nodup
  sourced : ∀ r ∈ s.rules, r.sourceFile.isSome = true

/-- The empty set is sound. -/
theorem Sound.empty : Sound {} :=
  ⟨List.nodup_nil, nofun⟩

/-- New rules that know where they come from keep a set sound. -/
theorem Sound.add {s : RuleSet} (h : s.Sound) {rules : List Rule}
    (hnew : s.AreNew rules) (origin : String) (settings : Settings) :
    Sound ⟨settings, s.rules ++ rules.map (·.addedFrom origin)⟩ where
  distinct := by
    have hids : (rules.map (·.addedFrom origin)).map (·.id)
        = rules.map (·.id) := by
      rw [List.map_map]
      rfl
    rw [List.map_append, hids]
    refine List.nodup_append.mpr ⟨h.distinct, hnew.distinct, ?_⟩
    intro id hid id' hid'
    obtain ⟨other, hother, rfl⟩ := List.mem_map.mp hid
    obtain ⟨r, hr, rfl⟩ := List.mem_map.mp hid'
    exact hnew.absent r hr other hother
  sourced r hr := by
    rcases List.mem_append.mp hr with hr | hr
    · exact h.sourced r hr
    · obtain ⟨q, -, rfl⟩ := List.mem_map.mp hr
      rfl

/-- A step adds rules from the front of its document at the end of the set. -/
theorem extend_adds (s : RuleSet) (d : Document) :
    ∃ taken, taken <+: d.rules ∧ s.AreNew taken
      ∧ (s.extend d.origin d.text).1.rules
        = s.rules ++ taken.map (·.addedFrom d.origin) := by
  unfold Document.rules
  rcases s.extend_course d.origin d.text with ⟨-, hextend⟩
    | ⟨file, taken, hfile, hnew, hset, hend⟩
  · exact ⟨[], List.nil_prefix, .nil s, by simp [hextend]⟩
  · refine ⟨taken, ?_, hnew, by rw [hset]⟩
    rw [hfile]
    rcases hend with ⟨hall, -⟩ | ⟨r, rest, -, hpart, -, -⟩
    · exact ⟨[], by simp [hall]⟩
    · exact ⟨r :: rest, hpart.symm⟩

/-- A step keeps a set sound, whether or not its document had a fault. -/
theorem Sound.extend {s : RuleSet} (h : s.Sound) (d : Document) :
    (s.extend d.origin d.text).1.Sound := by
  obtain ⟨taken, -, hnew, hrules⟩ := s.extend_adds d
  have hsound := h.add hnew d.origin (s.extend d.origin d.text).1.settings
  rw [← hrules] at hsound
  exact hsound

/-- So does a whole history, by induction on the documents. -/
theorem extendAll_sound {s : RuleSet} (h : s.Sound) (docs : List Document) :
    (s.extendAll docs).1.Sound := by
  induction docs generalizing s with
  | nil => exact h
  | cons d docs ih => exact ih (h.extend d)

-- ============================================================= without faults

/-- A document without fault was read, and all of it was added. -/
theorem extend_of_no_fault {s : RuleSet} {origin text : String}
    (h : (s.extend origin text).2 = none) :
    ∃ file, RuleFile.ofToml? text = some file
      ∧ (s.extend origin text).1
        = ⟨file.settings.applyTo s.settings,
          s.rules ++ file.rules.map (·.addedFrom origin)⟩ := by
  rcases s.extend_course origin text with ⟨-, hextend⟩
    | ⟨file, taken, hfile, -, hset, hend⟩
  · rw [hextend] at h
    cases h
  · rcases hend with ⟨hall, -⟩ | ⟨r, rest, first, -, -, hfault⟩
    · rw [← hall] at hset
      exact ⟨file, hfile, hset⟩
    · rw [h] at hfault
      cases hfault

/-- What the last of some documents gives for a setting, if one gives it. -/
def lastGiven {α : Type} (field : SettingsChange → Option α)
    (files : List RuleFile) : Option α :=
  (files.filterMap fun file => field file.settings).getLast?

/-- The first document counts for a setting only if no later one gives it. -/
theorem lastGiven_cons {α : Type} (field : SettingsChange → Option α)
    (file : RuleFile) (files : List RuleFile) :
    lastGiven field (file :: files)
      = (lastGiven field files).or (field file.settings) := by
  unfold lastGiven
  simp only [List.filterMap_cons]
  cases field file.settings with
  | none => exact Option.or_none.symm
  | some v =>
      simp only [List.getLast?_cons]
      cases (files.filterMap fun file => field file.settings).getLast? <;> rfl

/-- The settings after some documents that were all read. -/
def settingsAfter (s : Settings) (files : List RuleFile) : Settings where
  timeoutMs := (lastGiven (·.timeoutMs) files).getD s.timeoutMs
  maxOutputBytes := (lastGiven (·.maxOutputBytes) files).getD s.maxOutputBytes
  shell := (lastGiven (·.shell) files).or s.shell

/-- Settings after several documents are those of the later ones, applied to
what the first has left. -/
theorem settingsAfter_cons (s : Settings) (file : RuleFile)
    (files : List RuleFile) :
    settingsAfter s (file :: files)
      = settingsAfter (file.settings.applyTo s) files := by
  unfold settingsAfter
  simp only [lastGiven_cons, Option.getD_or, Option.or_assoc]
  rfl

/-- The rules of documents in order, as they are added. -/
def rulesOf (docs : List Document) (files : List RuleFile) : List Rule :=
  (docs.zip files).flatMap fun (d, file) =>
    file.rules.map (·.addedFrom d.origin)

/-- Documents without faults were all read, and all that is in them was added in
their order. -/
theorem extendAll_of_no_fault {s : RuleSet} {docs : List Document}
    (h : ∀ fault ∈ (s.extendAll docs).2, fault = none) :
    ∃ files, docs.map (fun d => RuleFile.ofToml? d.text) = files.map some
      ∧ (s.extendAll docs).1
        = ⟨settingsAfter s.settings files, s.rules ++ rulesOf docs files⟩ := by
  induction docs generalizing s with
  | nil => exact ⟨[], rfl, by simp [extendAll, rulesOf, settingsAfter, lastGiven]⟩
  | cons d docs ih =>
      obtain ⟨file, hfile, hset⟩ := extend_of_no_fault
        (h (s.extend d.origin d.text).2 (List.mem_cons_self ..))
      obtain ⟨files, hfiles, hlater⟩ := ih fun fault hfault =>
        h fault (List.mem_cons_of_mem _ hfault)
      refine ⟨file :: files, ?_, ?_⟩
      · rw [List.map_cons, hfile, hfiles]
        rfl
      · rw [hset] at hlater
        rw [extendAll, hset, hlater, settingsAfter_cons, List.append_assoc]
        rfl

end RuleSet

/-- Documents that are added one after another to the empty set, any of which may
be unreadable or repeat an id.

After every step the ids are distinct, every rule has a source, and the rules
from before stand unchanged in front of those just added, which are from the
front of the document and come from it unless they name another source. If no
document has a fault, they were all read, the rules are theirs in order, and
each setting is what the last of them gives for it, or its default. -/
theorem rule_sets_only_grow (docs : List Document) :
    let set := (RuleSet.extendAll {} docs).1
    (set.rules.map (·.id)).Nodup
      ∧ (∀ r ∈ set.rules, r.sourceFile.isSome = true)
      ∧ (∀ d : Document, ∃ taken, taken <+: d.rules
        ∧ (RuleSet.extendAll {} (docs ++ [d])).1.rules
          = set.rules ++ taken.map fun r =>
            { r with sourceFile := some (r.sourceFile.getD d.origin) })
      ∧ ((∀ fault ∈ (RuleSet.extendAll {} docs).2, fault = none) →
        ∃ files, docs.map (fun d => RuleFile.ofToml? d.text) = files.map some
          ∧ set.rules = (docs.zip files).flatMap (fun (d, file) =>
            file.rules.map fun r =>
              { r with sourceFile := some (r.sourceFile.getD d.origin) })
          ∧ set.settings.timeoutMs
            = (RuleSet.lastGiven (·.timeoutMs) files).getD 10000
          ∧ set.settings.maxOutputBytes
            = (RuleSet.lastGiven (·.maxOutputBytes) files).getD 102400
          ∧ set.settings.shell = RuleSet.lastGiven (·.shell) files) := by
  have hsound := RuleSet.extendAll_sound .empty docs
  refine ⟨hsound.distinct, hsound.sourced, ?_, ?_⟩
  · intro d
    obtain ⟨taken, hprefix, -, hrules⟩ :=
      (RuleSet.extendAll {} docs).1.extend_adds d
    rw [RuleSet.extendAll_snoc]
    exact ⟨taken, hprefix, hrules⟩
  · intro hfaults
    obtain ⟨files, hfiles, hset⟩ := RuleSet.extendAll_of_no_fault hfaults
    refine ⟨files, hfiles, ?_, ?_, ?_, ?_⟩
    · rw [hset]
      rfl
    · rw [hset]
      rfl
    · rw [hset]
      rfl
    · rw [hset]
      exact Option.or_none

/-- The second of two documents adds its rule after those of the first, replaces
the time limit and leaves the shell. -/
theorem settings_of_two_documents :
    let docs : List Document := [
      ⟨"base.toml", "[settings]\ntimeout_ms = 500\nshell = \"bash\"\n"
        ++ "[[rules]]\nid = \"a\"\npriority = \"high\"\n"
        ++ "[[rules]]\nid = \"c\"\nsource_file = \"shared.toml\"\n"⟩,
      ⟨"local.toml", "[settings]\ntimeout_ms = 900\n[[rules]]\nid = \"b\"\n"
        ++ "[[rules.actions]]\ntype = \"deny\"\nmessage = \"no\"\n"⟩]
    (∀ fault ∈ (RuleSet.extendAll {} docs).2, fault = none)
      ∧ ∃ files, docs.map (fun d => RuleFile.ofToml? d.text) = files.map some
        ∧ (RuleSet.rulesOf docs files).map
          (fun r => (r.id, r.priority, r.actions.map (·.text), r.sourceFile)) = [
            ("a", .high, [], some "base.toml"),
            ("c", .medium, [], some "shared.toml"),
            ("b", .medium, [some "no"], some "local.toml")]
        ∧ (RuleSet.lastGiven (·.timeoutMs) files).getD 10000 = 900
        ∧ RuleSet.lastGiven (·.shell) files = some "bash" := by
  intro docs
  -- One evaluation of the documents for all that is read off the set.
  have hset : (RuleSet.extendAll {} docs).2 = [none, none]
      ∧ (RuleSet.extendAll {} docs).1.settings
        = { timeoutMs := 900, shell := some "bash" }
      ∧ (RuleSet.extendAll {} docs).1.rules.map
        (fun r => (r.id, r.priority, r.actions.map (·.text), r.sourceFile)) = [
          ("a", .high, [], some "base.toml"),
          ("c", .medium, [], some "shared.toml"),
          ("b", .medium, [some "no"], some "local.toml")] := by
    decide +kernel
  obtain ⟨hnone, hsettings, hread⟩ := hset
  have hfaults : ∀ fault ∈ (RuleSet.extendAll {} docs).2, fault = none := by
    rw [hnone]
    decide
  obtain ⟨files, hfiles, hrules, htimeout, -, hshell⟩ :=
    (rule_sets_only_grow docs).2.2.2 hfaults
  rw [hsettings] at htimeout hshell
  have hrules : (RuleSet.extendAll {} docs).1.rules = RuleSet.rulesOf docs files :=
    hrules
  rw [hrules] at hread
  exact ⟨hfaults, files, hfiles, hread, htimeout.symm, hshell.symm⟩

end HookRules
