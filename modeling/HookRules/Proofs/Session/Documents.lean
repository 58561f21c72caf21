/-
A store in memory as one map.

# Places

A store keeps values at places: under a key of a session, or under a key of the
project (`StorePlace`). A place that is set has its new value and every other place
its old one (`get?_set`), whatever names two places share. So over any history of
settings a place has the value that it was given last, or the one from before all
of them (`get?_setAll`).

# Documents

Reading a state document is such a history, too, from the empty store on: the
settings of its sessions one after the other, and then those of the project
(`ofJson_eq_ok_iff`). Each stage of the reading either sets values or fails because
something that has to be an object is none, and this is kept when stages are put
together (`AddsAs`). What a document sets last at a place is what it holds there
(`lastSet?_documentSteps`), as no name stands twice in an object.
-/
import HookRules.Proofs.Json.Normal
import HookRules.Proofs.Session.Isolation

namespace HookRules

/-- Where a store keeps a value. -/
inductive StorePlace where
  | session (id key : String)
  | project (key : String)
deriving DecidableEq

/-- What is set at which places, in order. -/
abbrev StoreSteps := List (StorePlace × Json)

namespace Json

/-- What a part of a document has to be for its fields to be read. -/
def IsObject (v : Json) : Prop := ∃ fields, v = .obj fields

theorem isObject_obj (fields : Fields) : (Json.obj fields).IsObject :=
  ⟨fields, rfl⟩

/-- The fields of an object, and none of anything else. -/
def entries (v : Json) : Fields := v.obj?.getD []

/-- Looking up a name in a value is looking it up in its entries, also where
the value is no object. -/
theorem get?_eq_entries (v : Json) (name : String) :
    v.get? name = Fields.get? v.entries name := by
  cases v <;> rfl

/-- A value that comes out of normalisation as it went in is normal. -/
theorem Normal.of_normalize_eq {v : Json} (h : v.normalize = v) : v.Normal :=
  ⟨v, h⟩

/-- The entries of a normal value are in order, no name twice among them, and
their values are normal again. -/
theorem Normal.entries {v : Json} (h : v.Normal) :
    Fields.Ascending v.entries ∧ ∀ f ∈ v.entries, f.2.Normal := by
  cases v with
  | obj fields => exact h.fields
  | null | bool | num | str | arr => exact ⟨.nil, nofun⟩

/-- What a normal value holds under a name is normal. -/
theorem Normal.get? {v w : Json} (h : v.Normal) {name : String}
    (hw : v.get? name = some w) : w.Normal := by
  rw [get?_eq_entries] at hw
  obtain ⟨before, later, heq, -⟩ := List.lookup_eq_some_iff.mp hw
  refine h.entries.2 (name, w) ?_
  rw [heq]
  exact List.mem_append_cons_self

end Json

namespace MemoryStore

open Condition.Parser (ok_of_bind)

-- ==================================================================== places

/-- The value at a place, in whichever of the two halves of the store it is. -/
def get? (s : MemoryStore) : StorePlace → Option Json
  | .session id key => s.sessionGet id key
  | .project key => s.projectGet key

/-- A store with a value at a place. A session that was not there comes into
being. -/
def set (s : MemoryStore) : StorePlace → Json → MemoryStore
  | .session id key, v => s.sessionSet id key v
  | .project key, v => s.projectSet key v

/-- Sets values in turn. -/
def setAll (s : MemoryStore) (steps : StoreSteps) : MemoryStore :=
  steps.foldl (fun s step => s.set step.1 step.2) s

/-- The value that a place is given last. -/
def lastSet? (steps : StoreSteps) (place : StorePlace) : Option Json :=
  (steps.reverse.find? fun step => step.1 = place).map (·.2)

/-- A place that was set has its new value and every other place its old one. -/
theorem get?_set (s : MemoryStore) (place : StorePlace) (v : Json)
    (other : StorePlace) :
    (s.set place v).get? other
      = if other = place then some v else s.get? other := by
  cases place with
  | session id key =>
      cases other with
      | session id' key' =>
          simp only [StorePlace.session.injEq]
          exact sessionGet_sessionSet s id key v id' key'
      | project key' => exact (if_neg nofun).symm
  | project key =>
      cases other with
      | session id' key' => exact (if_neg nofun).symm
      | project key' =>
          simp only [StorePlace.project.injEq]
          exact Table.get?_set s.project key v key'

/-- Of two histories in a row the later one decides, where it says anything. -/
theorem lastSet?_append (steps later : StoreSteps) (place : StorePlace) :
    lastSet? (steps ++ later) place
      = (lastSet? later place).or (lastSet? steps place) := by
  unfold lastSet?
  rw [List.reverse_append, List.find?_append, Option.map_or]

/-- The first setting of a history counts only if none of the others is at its
place. -/
theorem lastSet?_cons (place : StorePlace) (v : Json) (steps : StoreSteps)
    (other : StorePlace) :
    lastSet? ((place, v) :: steps) other
      = (lastSet? steps other).or (if other = place then some v else none) := by
  unfold lastSet?
  rw [List.reverse_cons, List.find?_append, Option.map_or, List.find?_singleton]
  congr 1
  by_cases h : other = place
  · simp [h]
  · simp [h, Ne.symm h]

/-- After any settings a place has the value that it was given last. -/
theorem get?_setAll (s : MemoryStore) (steps : StoreSteps)
    (place : StorePlace) :
    (s.setAll steps).get? place = (lastSet? steps place).or (s.get? place) := by
  induction steps generalizing s with
  | nil => rfl
  | cons step steps ih =>
      obtain ⟨p, v⟩ := step
      rw [lastSet?_cons, Option.or_assoc]
      refine (ih (s.set p v)).trans (congrArg _ ?_)
      rw [get?_set]
      by_cases h : place = p
      · rw [if_pos h, if_pos h, Option.some_or]
      · rw [if_neg h, if_neg h, Option.none_or]

/-- Two histories in a row can be carried out one after the other. -/
theorem setAll_append (s : MemoryStore) (steps later : StoreSteps) :
    s.setAll (steps ++ later) = (s.setAll steps).setAll later :=
  List.foldl_append

-- ======================================================= fields as settings

/-- Fields, each of which is set at the place of its name. -/
def fieldSteps (place : String → StorePlace) (fields : Fields) : StoreSteps :=
  fields.map fun f => (place f.1, f.2)

/-- The settings of one session of a document. -/
def sessionSteps (session : String × Json) : StoreSteps :=
  fieldSteps (.session session.1) session.2.entries

/-- The settings of the sessions of a document, session by session. -/
def sessionsSteps (sessions : Json) : StoreSteps :=
  sessions.entries.flatMap sessionSteps

/-- The settings of the project of a document. -/
def projectSteps (project : Json) : StoreSteps :=
  fieldSteps .project project.entries

/-- The settings that a document stands for: those of its sessions, and then those
of the project. -/
def documentSteps (document : Json) : StoreSteps :=
  (document.get? "sessions").elim [] sessionsSteps
    ++ (document.get? "project").elim [] projectSteps

/-- A place that is never set has no last value. -/
theorem lastSet?_of_not_mem {steps : StoreSteps} {place : StorePlace}
    (h : ∀ step ∈ steps, step.1 ≠ place) : lastSet? steps place = none := by
  induction steps with
  | nil => rfl
  | cons step steps ih =>
      obtain ⟨hne, hrest⟩ := List.forall_mem_cons.mp h
      rw [lastSet?_cons, ih hrest, Option.none_or, if_neg (Ne.symm hne)]

/-- What fields set last at the place of a name is what they give it last. -/
theorem lastSet?_fieldSteps {place : String → StorePlace}
    (hplace : Function.Injective place) (fields : Fields) (name : String) :
    lastSet? (fieldSteps place fields) (place name)
      = Fields.last? fields name := by
  induction fields with
  | nil => rfl
  | cons f rest ih =>
      obtain ⟨k, v⟩ := f
      show lastSet? ((place k, v) :: fieldSteps place rest) (place name) = _
      rw [lastSet?_cons, ih, Fields.last?_cons]
      simp only [hplace.eq_iff]

/-- As no name is there twice, what a value sets last at the place of a name is what
it holds under the name. -/
theorem lastSet?_fieldSteps_entries {place : String → StorePlace}
    (hplace : Function.Injective place) {v : Json} (h : v.Normal)
    (name : String) :
    lastSet? (fieldSteps place v.entries) (place name) = v.get? name := by
  rw [v.get?_eq_entries, ← h.entries.1.last?_eq]
  exact lastSet?_fieldSteps hplace v.entries name

/-- The place of a setting of a session is in that session. -/
theorem place_of_mem_sessionSteps {session : String × Json}
    {step : StorePlace × Json} (h : step ∈ sessionSteps session) :
    ∃ key, step.1 = .session session.1 key := by
  obtain ⟨f, -, rfl⟩ := List.mem_map.mp h
  exact ⟨f.1, rfl⟩

/-- The settings of sessions are not in the project. -/
theorem lastSet?_sessionsSteps_project (sessions : Json) (key : String) :
    lastSet? (sessionsSteps sessions) (.project key) = none := by
  refine lastSet?_of_not_mem fun step hstep heq => ?_
  obtain ⟨session, -, hstep⟩ := List.mem_flatMap.mp hstep
  obtain ⟨key', hkey⟩ := place_of_mem_sessionSteps hstep
  cases hkey.symm.trans heq

/-- The settings of the project are in no session. -/
theorem lastSet?_projectSteps_session (project : Json) (id key : String) :
    lastSet? (projectSteps project) (.session id key) = none := by
  refine lastSet?_of_not_mem fun step hstep heq => ?_
  obtain ⟨f, -, rfl⟩ := List.mem_map.mp hstep
  cases heq

/-- As no session is there twice, what the sessions set last at a place of a
session is what this session holds there. -/
theorem lastSet?_flatMap_sessionSteps {sessions : Fields}
    (hsessions : Fields.Ascending sessions)
    (hnormal : ∀ session ∈ sessions, session.2.Normal) (id key : String) :
    lastSet? (sessions.flatMap sessionSteps) (.session id key)
      = (Fields.get? sessions id).bind (·.get? key) := by
  induction sessions with
  | nil => rfl
  | cons session rest ih =>
      obtain ⟨id', v⟩ := session
      obtain ⟨hfirst, hrest⟩ := List.pairwise_cons.mp hsessions
      obtain ⟨hv, hvs⟩ := List.forall_mem_cons.mp hnormal
      rw [List.flatMap_cons, lastSet?_append, Fields.get?_cons, ih hrest hvs]
      by_cases hid : id = id'
      · have hplace : Function.Injective (StorePlace.session id') :=
          fun _ _ h => (StorePlace.session.inj h).2
        have hlater : Fields.get? rest id = none := by
          rw [← Fields.Ascending.last?_eq hrest]
          refine Fields.last?_of_not_mem fun session hmem => ?_
          rw [hid]
          exact ne_of_gt (hfirst session hmem)
        rw [hlater, Option.bind_none, Option.none_or, if_pos hid,
          Option.bind_some, hid]
        exact lastSet?_fieldSteps_entries hplace hv key
      · have hhere : lastSet? (sessionSteps (id', v)) (.session id key)
            = none := by
          refine lastSet?_of_not_mem fun step hstep heq => ?_
          obtain ⟨key', hkey⟩ := place_of_mem_sessionSteps hstep
          exact hid (StorePlace.session.inj (heq.symm.trans hkey)).1
        rw [hhere, Option.or_none, if_neg hid]

/-- What the sessions of a document set last at a place is what the document
holds there. -/
theorem lastSet?_sessionsSteps {sessions : Json} (h : sessions.Normal)
    (id key : String) :
    lastSet? (sessionsSteps sessions) (.session id key)
      = (sessions.get? id).bind (·.get? key) := by
  rw [sessions.get?_eq_entries]
  exact lastSet?_flatMap_sessionSteps h.entries.1 h.entries.2 id key

/-- A part that may be left out sets nothing if it is. -/
theorem lastSet?_elim {α : Type} (part : Option α) (steps : α → StoreSteps)
    (place : StorePlace) :
    lastSet? (part.elim [] steps) place
      = part.bind fun a => lastSet? (steps a) place := by
  cases part <;> rfl

/-- What a document holds at a place. -/
def heldIn? (document : Json) : StorePlace → Option Json
  | .session id key => document.at? ["sessions", id, key]
  | .project key => document.at? ["project", key]

/-- What a document sets last at a place is what it holds there. -/
theorem lastSet?_documentSteps {document : Json} (h : document.Normal)
    (place : StorePlace) :
    lastSet? (documentSteps document) place = heldIn? document place := by
  unfold documentSteps
  rw [lastSet?_append, lastSet?_elim, lastSet?_elim]
  cases place with
  | session id key =>
      simp only [lastSet?_projectSteps_session, Option.bind_fun_none]
      rw [Option.none_or, heldIn?, Json.at?_cons]
      refine Option.bind_congr fun sessions hsessions => ?_
      rw [lastSet?_sessionsSteps (h.get? hsessions)]
      simp
  | project key =>
      have hplace : Function.Injective StorePlace.project :=
        fun _ _ h => StorePlace.project.inj h
      simp only [lastSet?_sessionsSteps_project, Option.bind_fun_none]
      rw [Option.or_none, heldIn?, Json.at?_cons]
      refine Option.bind_congr fun project hproject => ?_
      rw [projectSteps, lastSet?_fieldSteps_entries hplace (h.get? hproject)]
      simp

-- =================================================================== reading

/-- A document is an object in which the sessions are an object of objects and the
project is an object, as far as they are given. -/
structure IsDocument (document : Json) : Prop where
  root : document.IsObject
  sessions : ∀ v, document.get? "sessions" = some v →
    v.IsObject ∧ ∀ session ∈ v.entries, session.2.IsObject
  project : ∀ v, document.get? "project" = some v → v.IsObject

section AddsAs

variable {α : Type}

/-- To add a thing is to set values, or fails if the thing is not accepted. -/
def AddsAs (add : MemoryStore → α → Except DocumentFault MemoryStore)
    (Accepted : α → Prop) (steps : α → StoreSteps) : Prop :=
  ∀ s a t, add s a = .ok t ↔ Accepted a ∧ s.setAll (steps a) = t

variable {add : MemoryStore → α → Except DocumentFault MemoryStore}
  {Accepted : α → Prop} {steps : α → StoreSteps}

/-- What is accepted is added, and the store is the one after its settings. -/
theorem AddsAs.eq_ok (h : AddsAs add Accepted steps) (s : MemoryStore) {a : α}
    (ha : Accepted a) : add s a = .ok (s.setAll (steps a)) :=
  (h s a _).mpr ⟨ha, rfl⟩

/-- The fields of a part are set at the places of their names. -/
theorem addsAs_part (name : String) (place : String → StorePlace) :
    AddsAs (fun s v => do
        return (← part name v).foldl (fun s f => s.set (place f.1) f.2) s)
      Json.IsObject (fun v => fieldSteps place v.entries) := by
  intro s v t
  cases v with
  | obj fields =>
      have hadd : s.setAll (fieldSteps place fields)
          = fields.foldl (fun s f => s.set (place f.1) f.2) s := List.foldl_map
      refine Iff.trans ?_ (and_iff_right (Json.isObject_obj fields)).symm
      show _ ↔ s.setAll (fieldSteps place fields) = t
      rw [hadd]
      exact ⟨Except.ok.inj, congrArg _⟩
  | null | bool | num | str | arr => exact ⟨nofun, fun h => nomatch h.1⟩

/-- Things are added one after the other. -/
theorem AddsAs.foldlM (h : AddsAs add Accepted steps) :
    AddsAs (fun s as => as.foldlM add s) (fun as => ∀ a ∈ as, Accepted a)
      (List.flatMap steps) := by
  intro s as t
  induction as generalizing s with
  | nil => exact ⟨fun h => ⟨nofun, Except.ok.inj h⟩, fun h => congrArg _ h.2⟩
  | cons a as ih =>
      simp only [List.foldlM_cons, List.forall_mem_cons, List.flatMap_cons,
        setAll_append]
      constructor
      · intro hread
        obtain ⟨s', hs', hrest⟩ := ok_of_bind hread
        obtain ⟨ha, rfl⟩ := (h s a s').mp hs'
        obtain ⟨has, heq⟩ := (ih _).mp hrest
        exact ⟨⟨ha, has⟩, heq⟩
      · rintro ⟨⟨ha, has⟩, heq⟩
        rw [h.eq_ok s ha]
        exact (ih _).mpr ⟨has, heq⟩

/-- A thing that may be left out is added if it is there. -/
theorem AddsAs.optional (h : AddsAs add Accepted steps) :
    AddsAs (fun s part => part.elim (pure s) (add s))
      (fun part => ∀ a, part = some a → Accepted a)
      (fun part => part.elim [] steps) := by
  intro s part t
  cases part with
  | none => exact ⟨fun h => ⟨nofun, Except.ok.inj h⟩, fun h => congrArg _ h.2⟩
  | some a =>
      refine (h s a t).trans (and_congr_left' ?_)
      exact ⟨fun ha b hb => Option.some.inj hb ▸ ha, fun ha => ha a rfl⟩

end AddsAs

/-- A session is accepted if it is an object, with whatever values in it. -/
theorem addsAs_addSession :
    AddsAs addSession (fun session => session.2.IsObject) sessionSteps :=
  fun s session =>
    addsAs_part session.1 (.session session.1) s session.2

/-- Sessions are accepted if they are an object of which every field is one.
The first that is none ends the reading, so all of them have to be. -/
theorem addsAs_addSessions :
    AddsAs addSessions
      (fun v => v.IsObject ∧ ∀ session ∈ v.entries, session.2.IsObject)
      sessionsSteps := by
  intro s v t
  cases v with
  | obj sessions =>
      refine (addsAs_addSession.foldlM s sessions t).trans (and_congr_left' ?_)
      exact (and_iff_right (Json.isObject_obj sessions)).symm
  | null | bool | num | str | arr => exact ⟨nofun, fun h => nomatch h.1.1⟩

/-- The project of a document is accepted under the same condition as one
session. -/
theorem addsAs_addProject :
    AddsAs addProject Json.IsObject projectSteps :=
  addsAs_part "project" .project

/-- A document is read as its settings, and nothing else is read. -/
theorem ofJson_eq_ok_iff {document : Json} {t : MemoryStore} :
    ofJson document = .ok t
      ↔ IsDocument document ∧ setAll {} (documentSteps document) = t := by
  cases document with
  | null | bool | num | str | arr => exact ⟨nofun, fun h => nomatch h.1.root⟩
  | obj root =>
      have hsessions := addsAs_addSessions.optional {} (Fields.get? root "sessions")
      have hproject := fun s =>
        addsAs_addProject.optional s (Fields.get? root "project") t
      unfold documentSteps
      rw [setAll_append]
      constructor
      · intro h
        obtain ⟨s, hs, hrest⟩ := ok_of_bind h
        obtain ⟨hall, rfl⟩ := (hsessions s).mp hs
        obtain ⟨hobject, heq⟩ := (hproject _).mp hrest
        exact ⟨⟨⟨root, rfl⟩, hall, hobject⟩, heq⟩
      · rintro ⟨h, heq⟩
        have hread := (hsessions _).mpr ⟨h.sessions, rfl⟩
        exact (congrArg (· >>= _) hread).trans
          ((hproject _).mpr ⟨h.project, heq⟩)

/-- A document is read if and only if its sessions are an object of objects and its
project is an object, as far as they are given. Whatever is set after that, a place
has the value that it was given last, or else the one that the document holds
there, or else none. -/
theorem store_holds_last_set {document : Json} (hdocument : document.Normal) :
    ((∃ s, ofJson document = .ok s) ↔ IsDocument document)
      ∧ ∀ s, ofJson document = .ok s → ∀ steps place,
        (s.setAll steps).get? place
          = (lastSet? steps place).or (heldIn? document place) := by
  constructor
  · constructor
    · rintro ⟨s, hs⟩
      exact (ofJson_eq_ok_iff.mp hs).1
    · intro h
      exact ⟨_, ofJson_eq_ok_iff.mpr ⟨h, rfl⟩⟩
  · intro s hs steps place
    obtain ⟨-, rfl⟩ := ofJson_eq_ok_iff.mp hs
    have hempty : (MemoryStore.get? {} place) = none := by
      cases place <;> rfl
    rw [get?_setAll, get?_setAll, lastSet?_documentSteps hdocument, hempty,
      Option.or_none]

/-- Two sessions and the project hold values under one name, which is also the name
of a session, and some of them are set again. -/
theorem store_of_equal_names :
    ∃ s, ofJson (.obj [("project", .obj [("a", .str "held")]),
        ("sessions", .obj [("a", .obj [("a", .bool false), ("b", .null)]),
          ("b", .obj [("a", .str "held")])])]) = .ok s
      ∧ ∀ t, t = s.setAll [(.session "a" "a", .str "old"),
          (.project "b", .null), (.session "a" "a", .str "set")] →
        t.get? (.session "a" "a") = some (.str "set")
          ∧ t.get? (.session "a" "b") = some .null
          ∧ t.get? (.session "b" "a") = some (.str "held")
          ∧ t.get? (.session "b" "b") = none
          ∧ t.get? (.project "a") = some (.str "held")
          ∧ t.get? (.project "b") = some .null := by
  have hnormal : (Json.obj [("project", .obj [("a", .str "held")]),
      ("sessions", .obj [("a", .obj [("a", .bool false), ("b", .null)]),
        ("b", .obj [("a", .str "held")])])]).Normal := .of_normalize_eq rfl
  have h := store_holds_last_set hnormal
  refine ⟨_, rfl, ?_⟩
  rintro t rfl
  simp only [h.2 _ rfl]
  exact ⟨rfl, rfl, rfl, rfl, rfl, rfl⟩

end MemoryStore
end HookRules
