/-
What an evaluation sees of the stores.

# What stores hold

A store is looked at through two functions of the catalog. Both show truth
values, numbers and texts; a list, an object, null, a missing key, a missing
store and a lookup that failed all show as null. So two stores that hold the same
truth values, numbers and texts under each key show the same (`scalarOf_ext`),
and the session of an event is the only one that is looked at.

# From lookups to evaluations

The keys that are looked at are computed by the conditions, so what is compared
are whole registries: those of two stores answer every call alike
(`call_stores`). A condition knows its registry by the answers to its calls alone
(`Condition.holds_congr`), so the verdicts on rules and the selection are the
same. Running the selected rules does not know the stores at all.
-/
import HookRules.Proofs.Condition.Agreement
import HookRules.Response.Build

namespace HookRules

-- ======================================================= what stores hold

/-- Truth values, numbers and texts. -/
inductive Json.IsScalar : Json → Prop where
  | bool (b : Bool) : IsScalar (.bool b)
  | num (n : Number) : IsScalar (.num n)
  | str (s : String) : IsScalar (.str s)

namespace Stores

/-- What there is under a key of a session. -/
def sessionEntry (s : Stores) (sessionId key : String) :
    Except StoreFault (Option Json) :=
  match s.session with
  | some look => look sessionId key
  | none => .ok none

/-- What there is under a key of the project. -/
def projectEntry (s : Stores) (key : String) :
    Except StoreFault (Option Json) :=
  match s.project with
  | some look => look key
  | none => .ok none

/-- Stores that hold the same truth values, numbers and texts in one session and
in the project. Nothing is said about other sessions, and nothing about what else
there is in this one. -/
structure SameScalars (sessionId : String) (a b : Stores) : Prop where
  session : ∀ key v, v.IsScalar →
    (a.sessionEntry sessionId key = .ok (some v)
      ↔ b.sessionEntry sessionId key = .ok (some v))
  project : ∀ key v, v.IsScalar →
    (a.projectEntry key = .ok (some v) ↔ b.projectEntry key = .ok (some v))

/-- Agreement goes along a history of changes. -/
theorem SameScalars.trans {sessionId : String} {a b c : Stores}
    (h : SameScalars sessionId a b) (h' : SameScalars sessionId b c) :
    SameScalars sessionId a c where
  session key v hv := (h.session key v hv).trans (h'.session key v hv)
  project key v hv := (h.project key v hv).trans (h'.project key v hv)

/-- What is shown of an entry is what it holds, if that is a truth value, a number
or a text, and null otherwise. -/
theorem scalarOf_cases (entry : Except StoreFault (Option Json)) :
    (scalarOf entry = .null
        ∧ ∀ v : Json, v.IsScalar → entry ≠ .ok (some v))
      ∨ ∃ v : Json, v.IsScalar ∧ entry = .ok (some v) ∧ scalarOf entry = v := by
  cases entry with
  | error e => exact Or.inl ⟨rfl, fun _ _ => nofun⟩
  | ok found =>
      cases found with
      | none => exact Or.inl ⟨rfl, fun _ _ => nofun⟩
      | some w =>
          cases w with
          | bool b => exact Or.inr ⟨_, .bool b, rfl, rfl⟩
          | num n => exact Or.inr ⟨_, .num n, rfl, rfl⟩
          | str s => exact Or.inr ⟨_, .str s, rfl, rfl⟩
          | null | arr | obj =>
              refine Or.inl ⟨rfl, ?_⟩
              intro v hv heq
              cases heq
              cases hv

/-- Entries that hold the same truth value, number or text show the same. -/
theorem scalarOf_ext {x y : Except StoreFault (Option Json)}
    (h : ∀ v : Json, v.IsScalar → (x = .ok (some v) ↔ y = .ok (some v))) :
    scalarOf x = scalarOf y := by
  rcases scalarOf_cases x with ⟨hx, hxnone⟩ | ⟨v, hv, hxv, -⟩
  · rcases scalarOf_cases y with ⟨hy, -⟩ | ⟨v, hv, hyv, -⟩
    · rw [hx, hy]
    · exact absurd ((h v hv).mpr hyv) (hxnone v hv)
  · rw [hxv, (h v hv).mp hxv]

/-- A value of a session is shown from its entry, and a missing store has no
entries. -/
theorem sessionValue_eq (s : Stores) (sessionId key : String) :
    s.sessionValue sessionId key = scalarOf (s.sessionEntry sessionId key) := by
  unfold sessionValue sessionEntry
  cases s.session <;> rfl

/-- So is a value of the project. -/
theorem projectValue_eq (s : Stores) (key : String) :
    s.projectValue key = scalarOf (s.projectEntry key) := by
  unfold projectValue projectEntry
  cases s.project <;> rfl

variable {sessionId : String} {a b : Stores}

/-- Stores that agree on a session show its values alike, under every key. -/
theorem SameScalars.sessionValue (h : SameScalars sessionId a b) :
    a.sessionValue sessionId = b.sessionValue sessionId := by
  funext key
  rw [sessionValue_eq, sessionValue_eq]
  exact scalarOf_ext (h.session key)

/-- They show the values of the project alike too. -/
theorem SameScalars.projectValue (h : SameScalars sessionId a b) :
    a.projectValue = b.projectValue := by
  funext key
  rw [projectValue_eq, projectValue_eq]
  exact scalarOf_ext (h.project key)

end Stores

-- ============================================================ stores in memory

namespace MemoryStore

/-- A store in memory always answers, so a fault is never what hides a value of
it. -/
theorem sessionEntry_stores (s : MemoryStore) (sessionId key : String) :
    s.stores.sessionEntry sessionId key = .ok (s.sessionGet sessionId key) :=
  rfl

/-- A key that was set has its new value in its session; every other key, and
every key of another session, has its old one. -/
theorem sessionGet_sessionSet (s : MemoryStore) (sessionId key : String)
    (value : Json) (sessionId' key' : String) :
    (s.sessionSet sessionId key value).sessionGet sessionId' key'
      = if sessionId' = sessionId ∧ key' = key then some value
        else s.sessionGet sessionId' key' :=
  Table.get?_bind_set s.sessions sessionId key value sessionId' key'

/-- A store shows a session the same after a key was set in another session, or
after a value that is not shown took the place of one that was not. -/
theorem sessionSet_sameScalars {s : MemoryStore} {sessionId other key : String}
    {value : Json}
    (hidden : other = sessionId → ∀ v : Json, v.IsScalar →
      value ≠ v ∧ s.sessionGet sessionId key ≠ some v) :
    s.stores.SameScalars sessionId (s.sessionSet other key value).stores where
  session key' v hv := by
    rw [sessionEntry_stores, sessionEntry_stores, sessionGet_sessionSet]
    split
    · next hset =>
        obtain ⟨rfl, rfl⟩ := hset
        obtain ⟨hvalue, hbefore⟩ := hidden rfl v hv
        simp [hvalue, hbefore]
    · rfl
  project _ _ _ := Iff.rfl

end MemoryStore

-- ==================================================================== calls

/-- A function answers alike from stores that hold the same. -/
theorem Registry.answer_stores (r : Registry) {a b : Stores}
    (h : a.SameScalars r.sessionId b) (f : Builtin) (args : List Json) :
    { r with stores := a }.answer f args
      = { r with stores := b }.answer f args := by
  cases f with
  | sessionGet => exact congrArg (value · args.head?) h.sessionValue
  | projectGet => exact congrArg (value · args.head?) h.projectValue
  | _ => rfl

/-- A call is answered alike whatever its name is: a name of the catalog is
answered by its function, and any other one is refused without a look at the
stores. -/
theorem Registry.call_stores (r : Registry) {a b : Stores}
    (h : a.SameScalars r.sessionId b) :
    Alike { r with stores := a } { r with stores := b } := by
  intro name args
  by_cases hname : name ∈ Builtin.all.map Builtin.name
  · obtain ⟨f, -, rfl⟩ := List.mem_map.mp hname
    rw [call_name, call_name, answer_stores r h]
  · rw [call_unknown hname, call_unknown hname]

-- ================================================================== selection

section

variable {r r' : Registry}

/-- Verdicts depend on a registry through its answers alone. -/
theorem Rule.verdict_congr (h : r.Alike r') (k : EventKind) (view : Fields)
    (rule : Rule) :
    rule.verdict r k view = rule.verdict r' k view :=
  Rule.verdict_agree h k fun _ _ _ => rfl

/-- Therefore so do the rules that are selected, and their order. -/
theorem Selection.select_congr (h : r.Alike r') (k : EventKind)
    (view : Fields) (rules : List Rule) :
    select r k view rules = select r' k view rules := by
  unfold select
  simp only [Rule.verdict_congr h]

end

-- ============================================================== evaluations

/-- The selection and the run of an evaluation are those of an engine with other
stores that hold the same. -/
theorem Engine.evaluateRulesIn_stores (e : Engine) {a b : Stores}
    (c : Context) (h : a.SameScalars c.sessionId b) (world : World)
    (rules : List Rule) (clock : Clock) :
    { e with stores := a }.evaluateRulesIn world rules c clock
      = { e with stores := b }.evaluateRulesIn world rules c clock := by
  have halike : ({ e with stores := a }.registry c).Alike
      ({ e with stores := b }.registry c) :=
    Registry.call_stores (e.registry c) h
  unfold evaluateRulesIn
  simp only [Selection.select_congr halike]
  rfl

/-- An evaluation sees of the stores only the truth values, numbers and texts
that they hold for the session of the event and for the project. Two states of
the stores that agree on these give the same outcome, the same logs and the same
response, for whatever rules are evaluated and in whatever world. -/
theorem evaluation_sees_own_session (e : Engine) (a b : Stores) (c : Context)
    (h : a.SameScalars c.event.common.sessionId b) (world : World)
    (rules : List Rule) (clock : Clock) :
    let left := { e with stores := a }.evaluateRulesIn world rules c clock
    let right := { e with stores := b }.evaluateRulesIn world rules c clock
    left.outcome = right.outcome
      ∧ left.logs = right.logs
      ∧ Response.ofOutcome left.outcome c.event
        = Response.ofOutcome right.outcome c.event := by
  intro left right
  have heq : left = right :=
    e.evaluateRulesIn_stores c h world rules clock
  rw [heq]
  exact ⟨rfl, rfl, rfl⟩

/-- What another session holds and a list in the own session are not seen by the
conditions of a rule that refuses in one mode. -/
theorem evaluation_of_two_sessions :
    let e : Engine :=
      { host := ⟨.empty, none, "/"⟩
        runner := fun _ => .ok ⟨0, .exited 0, [], []⟩ }
    let c := Context.ofEvent "/" ⟨{ sessionId := "mine" }, .stop false⟩
    let guard : Rule :=
      { id := "guard", result := .block
        condition := "$session_get('mode') == 'plan'" }
    let before := ({} : MemoryStore).sessionSet "mine" "mode" (.str "plan")
    let after := (before.sessionSet "mine" "files" (.arr [])).sessionSet
      "other" "mode" (.str "free")
    before.stores.SameScalars c.event.common.sessionId after.stores
      ∧ ({ e with stores := before.stores }.evaluateRulesIn e.world [guard] c
          "").outcome.isBlocked = true
      ∧ ({ e with stores := before.stores }.evaluateRulesIn e.world [guard] c
          "").outcome
        = ({ e with stores := after.stores }.evaluateRulesIn e.world [guard] c
          "").outcome := by
  intro e c guard before after
  have hlist : before.stores.SameScalars "mine"
      (before.sessionSet "mine" "files" (.arr [])).stores := by
    refine MemoryStore.sessionSet_sameScalars fun _ v hv => ⟨?_, ?_⟩
    · rintro rfl
      cases hv
    · exact nofun
  have hother : before.stores.SameScalars "mine" after.stores :=
    hlist.trans (MemoryStore.sessionSet_sameScalars fun h =>
      absurd h (by decide))
  have hblocked : ({ e with stores := before.stores }.evaluateRulesIn e.world
      [guard] c "").outcome.isBlocked = true := by
    decide +kernel
  exact ⟨hother, hblocked, (evaluation_sees_own_session e before.stores
    after.stores c hother e.world [guard] "").1⟩

end HookRules
