/-
Reading a rule back from the object that it is written as.

A rule is read from many spellings: events as one name or a list, unknown
priorities and levels, two names for callables, options that are null or left
out, a record as an object or as a list. What is kept of them is a normal form,
and writing it gives a value that is read as the same rule.

# What makes a rule readable again

Most fields are read back whatever they hold. An action needs three things: its
value is not null, which would be read as no value, the names in its environment
are in order, and its time limit is a 64-bit natural (`Action.Recoverable`). A
rule needs actions of that sort and a filter that is the one of its own names
(`Rule.Recoverable`). All of this holds of what was read from a value
(`Action.recoverable_of_read?`, `Rule.recoverable_of_ofJson?`), and is enough for
reading it back (`Action.read?_toJson`, `Rule.ofJson?_toJson`).

The filter is the only field that changes more than its spelling. It is the one
of the names that the value lists (`Rule.events_of_ofJson?`), so it applies to
the events that these names stand for.
-/
import HookRules.Proofs.Json.Normal
import HookRules.Proofs.Rule.EventNames

namespace HookRules

open Fields (Ascending optionalIn? default? required?)

-- ============================================================ 64-bit naturals

theorem Json.nat64?_ofInt {n : Nat} (h : n < Nat.pow 2 64) :
    (Json.ofInt n).nat64? = some n := by
  have hfits : (0 : Int) ≤ n ∧ (n : Int) < Nat.pow 2 64 :=
    ⟨Int.natCast_nonneg n, Int.ofNat_lt.mpr h⟩
  simp only [Json.ofInt, nat64?, Number.nat64?]
  rw [if_pos hfits, Int.toNat_natCast]

theorem Json.nat64?_lt {v : Json} {n : Nat} (h : v.nat64? = some n) :
    n < Nat.pow 2 64 := by
  cases v with
  | num m =>
      cases m with
      | int m =>
          replace h : (if 0 ≤ m ∧ m < Nat.pow 2 64 then some m.toNat else none)
              = some n := h
          split at h
          · next hfits =>
              cases h
              exact (Int.toNat_lt hfits.1).mpr hfits.2
          · cases h
      | float _ => cases h
  | null | bool _ | str _ | arr _ | obj _ => cases h

-- ===================================================================== actions

namespace Action

/-- What an action needs to be read back. -/
structure Recoverable (a : Action) : Prop where
  /-- Null would be read as no value. -/
  value : ∀ v, a.value = some v → v.isNull = false
  env : (a.env.map (·.1)).Pairwise (· < ·)
  timeout : ∀ n, a.timeoutMs = some n → n < Nat.pow 2 64

/-- An action that was read can be read back. -/
theorem recoverable_of_read? {v : Json} (hv : v.Normal) {a : Action}
    (h : read? .json v = some a) : a.Recoverable := by
  unfold read? at h
  obtain ⟨fs, hfs, h⟩ := Option.bind_eq_some_iff.mp h
  have hnormal : ∀ f ∈ fs, f.2.Normal := hv.record hfs
  -- of the other fields every value can be written, wherever it comes from
  iterate 5 obtain ⟨_, -, h⟩ := Option.bind_eq_some_iff.mp h
  obtain ⟨value, hvalue, h⟩ := Option.bind_eq_some_iff.mp h
  iterate 5 obtain ⟨_, -, h⟩ := Option.bind_eq_some_iff.mp h
  obtain ⟨env, henv, h⟩ := Option.bind_eq_some_iff.mp h
  obtain ⟨_, -, h⟩ := Option.bind_eq_some_iff.mp h
  obtain ⟨timeoutMs, htimeout, h⟩ := Option.bind_eq_some_iff.mp h
  iterate 5 obtain ⟨_, -, h⟩ := Option.bind_eq_some_iff.mp h
  cases h
  refine ⟨?_, ?_, ?_⟩
  · intro w hw
    obtain ⟨u, -, hnull, hu⟩ :=
      Fields.optionalIn?_eq_some (hvalue.trans (congrArg some hw))
    cases hu
    exact hnull
  · rcases Fields.default?_eq_some henv with rfl | ⟨u, hu, hread⟩
    · exact List.Pairwise.nil
    · exact (hnormal _ hu).dictionary_keys hread
  · intro n hn
    obtain ⟨u, -, -, hu⟩ :=
      Fields.optionalIn?_eq_some (htimeout.trans (congrArg some hn))
    exact Json.nat64?_lt hu

/-- The options that are texts, under the names that they are written under. -/
def texts (a : Action) : List (String × Option String) :=
  [("message", a.message), ("content", a.content), ("field", a.field),
   ("pattern", a.pattern), ("command", a.command), ("script", a.script),
   ("shell", a.shell), ("entrypoint", a.entrypoint), ("cwd", a.cwd)]

section

variable {a : Action} {fs : Fields} (hobj : a.toJson = .obj fs)
  (hasc : Ascending fs)

include hobj hasc

/-- An option is read back if each of its values is. -/
theorem optionalIn?_held {α : Type} {name : String} {value : Option α}
    {write : α → Json} {read : Json → Option α}
    (hget : a.toJson.get? name = value.map write)
    (hback : ∀ x, value = some x →
      (write x).isNull = false ∧ read (write x) = some x) :
    optionalIn? .json fs name read = some value := by
  rw [hobj] at hget
  exact hasc.optionalIn?_written hget hback

theorem optionalIn?_texts :
    ∀ f ∈ a.texts, optionalIn? .json fs f.1 Json.str? = some f.2 := by
  have hget : ∀ f ∈ a.texts, a.toJson.get? f.1 = f.2.map .str := by
    simp [texts, toJson]
  intro f hf
  exact optionalIn?_held hobj hasc (hget f hf) fun _ _ => ⟨rfl, rfl⟩

/-- An option that is one of some alternatives is read back if their names
are. -/
theorem optionalIn?_alternative {α : Type} {name : String} {value : Option α}
    {nameOf : α → String} {ofName? : String → Option α}
    (hname : ∀ x, ofName? (nameOf x) = some x)
    (hget : a.toJson.get? name = value.map fun x => .str (nameOf x)) :
    optionalIn? .json fs name
      (fun v => (v.alternativeIn? .json).bind ofName?) = some value :=
  optionalIn?_held hobj hasc hget fun x _ => ⟨rfl, hname x⟩

theorem required?_kind :
    required? fs "type"
      (fun v => (v.alternativeIn? .json).map ActionKind.ofName)
        = some a.kind := by
  have hget : a.toJson.get? "type" = some (.str a.kind.name) := by
    simp [toJson]
  rw [hasc.required?_eq, ← hobj, hget]
  exact congrArg some (ActionKind.ofName_name a.kind)

/-- The environment is read back, and left out if it is empty. -/
theorem default?_env (h : (a.env.map (·.1)).Pairwise (· < ·)) :
    default? fs "env" [] (Json.dictionary? Json.str?) = some a.env := by
  have hget : a.toJson.get? "env"
      = if a.env.isEmpty then none
        else some (.ofFields (a.env.map fun x => (x.1, .str x.2))) := by
    simp [toJson]
  rw [hasc.default?_eq, ← hobj, hget]
  cases henv : a.env with
  | nil => rfl
  | cons x xs =>
      rw [henv] at h
      exact Json.dictionary?_written h fun _ => rfl

theorem default?_interrupt :
    default? fs "interrupt" false Json.bool? = some a.interrupt := by
  have hget : a.toJson.get? "interrupt" = some (.bool a.interrupt) := by
    simp [toJson]
  rw [hobj] at hget
  exact hasc.default?_written false hget rfl

end

/-- An action that can be read back is read back. -/
theorem read?_toJson {a : Action} (h : a.Recoverable) :
    read? .json a.toJson = some a := by
  obtain ⟨fs, hobj, hasc⟩ : ∃ fs, a.toJson = .obj fs ∧ Ascending fs :=
    Json.ofFields_eq_obj _
  have htexts := optionalIn?_texts hobj hasc
  simp only [texts, List.forall_mem_cons] at htexts
  obtain ⟨hmessage, hcontent, hfield, hpattern, hcommand, hscript, hshell,
    hentrypoint, hcwd, -⟩ := htexts
  have hvalue : optionalIn? .json fs "value" some = some a.value :=
    optionalIn?_held hobj hasc (show _ = a.value.map id by simp [toJson])
      fun v hv => ⟨h.value v hv, rfl⟩
  have htimeout : optionalIn? .json fs "timeout_ms" Json.nat64?
      = some a.timeoutMs :=
    optionalIn?_held hobj hasc
      (show _ = a.timeoutMs.map fun n : Nat => .ofInt n by simp [toJson])
      fun n hn => ⟨rfl, Json.nat64?_ofInt (h.timeout n hn)⟩
  have hlevel : optionalIn? .json fs "level"
      (fun v => v.str?.map LogLevel.ofName) = some a.level :=
    optionalIn?_held hobj hasc
      (show _ = a.level.map fun l => .str l.name by simp [toJson])
      fun l _ => ⟨rfl, congrArg some (LogLevel.ofName_name l)⟩
  have hoperation : optionalIn? .json fs "operation" _ = some a.operation :=
    optionalIn?_alternative hobj hasc ModifyOperation.ofName?_name
      (by simp [toJson])
  have hstdin : optionalIn? .json fs "stdin" _ = some a.stdin :=
    optionalIn?_alternative hobj hasc StdinMode.ofName?_name (by simp [toJson])
  have hstdout : optionalIn? .json fs "stdout" _ = some a.stdout :=
    optionalIn?_alternative hobj hasc OutputMode.ofName?_name (by simp [toJson])
  have hstderr : optionalIn? .json fs "stderr" _ = some a.stderr :=
    optionalIn?_alternative hobj hasc OutputMode.ofName?_name (by simp [toJson])
  rw [hobj]
  show (required? fs "type" _).bind _ = _
  beta_reduce
  rw [required?_kind hobj hasc, hmessage, hcontent, hfield, hoperation, hvalue,
    hpattern, hcommand, hscript, hshell, hentrypoint,
    default?_env hobj hasc h.env, hcwd, htimeout, hstdin, hstdout, hstderr,
    hlevel, default?_interrupt hobj hasc]
  rfl

end Action

-- ====================================================================== filters

/-- The names that a value lists, as they stand there. -/
def EventFilter.listed : Json → List String
  | .str name => [name]
  | .arr items => items.filterMap Json.str?
  | _ => []

/-- A filter that was read is the one of the names listed. -/
theorem EventFilter.eq_ofNames_listed {v : Json} {f : EventFilter}
    (h : ofJson? v = some f) : f = ofNames (listed v) := by
  cases v with
  | str name =>
      cases h
      rfl
  | arr items =>
      obtain ⟨names, hnames, rfl⟩ := Option.map_eq_some_iff.mp h
      exact congrArg ofNames (Json.filterMap_of_mapM hnames).symm
  | null | bool _ | num _ | obj _ => cases h

/-- The names of a filter are read as their filter. -/
theorem EventFilter.ofJson?_names {f : EventFilter} (h : ofNames f.names = f) :
    ofJson? (.arr (f.names.map .str)) = some f := by
  have hread : Json.list? Json.str? (.arr (f.names.map .str)) = some f.names :=
    Json.list?_written fun _ _ => rfl
  show (Json.list? Json.str? (.arr (f.names.map .str))).map ofNames = _
  rw [hread, Option.map_some, h]

-- ======================================================================== rules

namespace Rule

/-- What a rule needs to be read back. -/
structure Recoverable (r : Rule) : Prop where
  events : EventFilter.ofNames r.events.names = r.events
  actions : ∀ a ∈ r.actions, a.Recoverable

/-- Where the events and the actions of a rule that was read come from. -/
theorem fields_of_ofJson? {v : Json} {r : Rule} (h : ofJson? v = some r) :
    ∃ fs, v.record? fieldNames = some fs
      ∧ default? fs "events" .all EventFilter.ofJson? = some r.events
      ∧ default? fs "actions" [] (Json.list? (Action.read? .json))
        = some r.actions := by
  unfold ofJson? read? at h
  obtain ⟨fs, hfs, h⟩ := Option.bind_eq_some_iff.mp h
  iterate 2 obtain ⟨_, -, h⟩ := Option.bind_eq_some_iff.mp h
  obtain ⟨events, hevents, h⟩ := Option.bind_eq_some_iff.mp h
  iterate 5 obtain ⟨_, -, h⟩ := Option.bind_eq_some_iff.mp h
  obtain ⟨actions, hactions, h⟩ := Option.bind_eq_some_iff.mp h
  obtain ⟨_, -, h⟩ := Option.bind_eq_some_iff.mp h
  cases h
  exact ⟨fs, hfs, hevents, hactions⟩

/-- The names that a value lists as the events of a rule, as they stand there.
A value that lists none stands for a rule that listens to all events. -/
def listedEvents (v : Json) : List String :=
  match (v.record? fieldNames).bind fun fs => Fields.single? fs "events" with
  | some (some names) => EventFilter.listed names
  | some none => [EventFilter.everyEvent]
  | none => []

/-- The filter of a rule that was read is the one of the names listed. -/
theorem events_of_ofJson? {v : Json} {r : Rule} (h : ofJson? v = some r) :
    r.events = EventFilter.ofNames (listedEvents v) := by
  obtain ⟨fs, hfs, hevents, -⟩ := fields_of_ofJson? h
  unfold listedEvents
  rw [hfs, Option.bind_some]
  unfold default? at hevents
  generalize Fields.single? fs "events" = held at hevents ⊢
  rcases held with _ | _ | names
  · cases hevents
  · exact (Option.some.inj hevents).symm
  · exact EventFilter.eq_ofNames_listed hevents

/-- A rule that was read can be read back. -/
theorem recoverable_of_ofJson? {v : Json} (hv : v.Normal) {r : Rule}
    (h : ofJson? v = some r) : r.Recoverable := by
  constructor
  · rw [events_of_ofJson? h]
    exact EventFilter.ofNames_names _
  · intro a ha
    obtain ⟨fs, hfs, -, hactions⟩ := fields_of_ofJson? h
    rcases Fields.default?_eq_some hactions with hnone | ⟨w, hw, hread⟩
    · rw [hnone] at ha
      cases ha
    · obtain ⟨items, rfl, hitems⟩ := Json.list?_eq_some hread
      obtain ⟨item, hitem, hread⟩ := hitems a ha
      exact Action.recoverable_of_read? ((hv.record hfs _ hw).item hitem) hread

/-- A rule that can be read back is read back. -/
theorem ofJson?_toJson {r : Rule} (h : r.Recoverable) :
    ofJson? r.toJson = some r := by
  obtain ⟨fs, hobj, hasc⟩ : ∃ fs, r.toJson = .obj fs ∧ Ascending fs :=
    Json.ofFields_eq_obj _
  have hid : required? fs "id" Json.str? = some r.id := by
    have hget : r.toJson.get? "id" = some (.str r.id) := by simp [toJson]
    rw [hasc.required?_eq, ← hobj, hget]
    rfl
  have hheld : ∀ {α : Type} {name : String} {value : α}
      {read : Json → Option α} (other : α) (w : Json),
      r.toJson.get? name = some w → read w = some value →
        default? fs name other read = some value := by
    intro _ _ _ _ other w hget hread
    rw [hobj] at hget
    exact hasc.default?_written other hget hread
  have htext : ∀ {name : String} {value : Option String},
      r.toJson.get? name = value.map .str →
        optionalIn? .json fs name Json.str? = some value := by
    intro _ _ hget
    rw [hobj] at hget
    exact hasc.optionalIn?_written hget fun _ _ => ⟨rfl, rfl⟩
  have hpriority : default? fs "priority" .medium
      (fun v => v.str?.map Priority.ofName) = some r.priority :=
    hheld _ (.str r.priority.name) (by simp [toJson])
      (congrArg some (Priority.ofName_name r.priority))
  have hevents : default? fs "events" .all EventFilter.ofJson?
      = some r.events :=
    hheld _ (.arr (r.events.names.map .str)) (by simp [toJson])
      (EventFilter.ofJson?_names h.events)
  have hcondition : default? fs "condition" "" Json.str? = some r.condition :=
    hheld _ (.str r.condition) (by simp [toJson]) rfl
  have henabled : default? fs "enabled" true Json.bool? = some r.enabled :=
    hheld _ (.bool r.enabled) (by simp [toJson]) rfl
  have hterminal : default? fs "terminal" false Json.bool? = some r.terminal :=
    hheld _ (.bool r.terminal) (by simp [toJson]) rfl
  have hresult : default? fs "result" .ok
      (fun v => (v.alternativeIn? .json).bind Label.ofName?) = some r.result :=
    hheld _ (.str r.result.name) (by simp [toJson]) (Label.ofName?_name r.result)
  have hdescription : optionalIn? .json fs "description" Json.str?
      = some r.description := htext (by simp [toJson])
  have hactions : default? fs "actions" [] (Json.list? (Action.read? .json))
      = some r.actions :=
    hheld _ (.arr (r.actions.map Action.toJson)) (by simp [toJson])
      (Json.list?_written fun a ha => Action.read?_toJson (h.actions a ha))
  have hsource : optionalIn? .json fs "source_file" Json.str?
      = some r.sourceFile := htext (by simp [toJson])
  rw [hobj]
  show (required? fs "id" _).bind _ = _
  rw [hid, hpriority, hevents, hcondition, henabled, hterminal, hresult,
    hdescription, hactions, hsource]
  rfl

end Rule

/-- Whatever value a rule was read from, the object that it is written as is read
as the same rule, so that bringing a rule into its normal form a second time
changes nothing. And it applies to an event exactly if the value lists a name
that, without the blanks around it, stands for every event or is one of the two
spellings of that event. -/
theorem rule_is_read_back {v : Json} {r : Rule}
    (h : Rule.ofJson? v.normalize = some r) :
    Rule.ofJson? r.toJson = some r
      ∧ (Rule.ofJson? r.toJson).map Rule.toJson = some r.toJson
      ∧ ∀ k, r.appliesTo k = true
        ↔ ∃ name ∈ Rule.listedEvents v.normalize,
          Text.trim name = EventFilter.everyEvent
            ∨ Text.trim name = k.ruleName ∨ Text.trim name = k.wireName := by
  have hback : Rule.ofJson? r.toJson = some r :=
    Rule.ofJson?_toJson (Rule.recoverable_of_ofJson? ⟨v, rfl⟩ h)
  refine ⟨hback, ?_, ?_⟩
  · rw [hback, Option.map_some]
  · intro k
    unfold Rule.appliesTo
    rw [Rule.events_of_ofJson? h]
    exact EventFilter.appliesTo_ofNames _ k

/-- A rule with its events in either spelling, with blanks and repetitions, an
unknown priority, an unknown field and actions of an unknown kind, of a second
name and with an option that is null. -/
theorem rule_of_many_spellings :
    let v : Json := .obj [
      ("id", .str "tidy"), ("priority", .str "Urgent"),
      ("events", .arr [.str " Stop ", .str "pre_tool_use", .str "stop"]),
      ("description", .null), ("owner", .str "nobody"),
      ("actions", .arr [
        .obj [("type", .str "launch"), ("level", .str "Trace")],
        .obj [("type", .str "callable"), ("entrypoint", .str "a:b"),
          ("value", .null), ("timeout_ms", .ofInt 50),
          ("env", .obj [("B", .str "2"), ("A", .str "1")])]])]
    ∃ r, Rule.ofJson? v.normalize = some r ∧ Rule.ofJson? r.toJson = some r
      ∧ r.priority = .medium ∧ r.events.names = ["pre_tool_use", "stop"]
      ∧ r.actions.map Action.kind = [.noop, .callable]
      ∧ ∀ k, r.appliesTo k = true ↔ k = .preToolUse ∨ k = .stop := by
  intro v
  have hread : Rule.ofJson? v.normalize = some _ := rfl
  obtain ⟨hback, -, happlies⟩ := rule_is_read_back hread
  refine ⟨_, hread, hback, rfl, rfl, rfl, ?_⟩
  intro k
  rw [happlies]
  cases k <;> decide

end HookRules
