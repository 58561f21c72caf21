/-
Reading an event back from the object that it is written as.

The object of an event has three parts: the name of its kind, the fields that
every event has and those of its payload. No name of the first two is one of a
payload (`get?_payload`), so each part is read as if it stood alone. The fields
that every event has are always written, and so are those of a payload that have
a default, so that no default is taken when an event is read back; what may be
left out is optional and is left out only if there is no value.

The values inside an event are not looked at. What a tool is given and what it
returns may be any value, null included: both are always written, and a tool's
input has to be there but may be null.
-/
import HookRules.Event.Wire
import HookRules.Context
import HookRules.Proofs.Json.Record

namespace HookRules

-- ============================================================ names of alternatives

@[simp] theorem PermissionMode.ofName?_name (m : PermissionMode) :
    ofName? m.name = some m := by cases m <;> decide

@[simp] theorem SessionSource.ofName?_name (s : SessionSource) :
    ofName? s.name = some s := by cases s <;> decide

/-- The reason that stands for all others is read back as well. -/
@[simp] theorem SessionEndReason.ofName_name (r : SessionEndReason) :
    ofName r.name = r := by cases r <;> decide

@[simp] theorem CompactTrigger.ofName?_name (t : CompactTrigger) :
    ofName? t.name = some t := by cases t <;> decide

namespace Event

open Fields (Ascending last? last?_cons last?_append last?_ofOption)

-- ============================================================== the written object

/-- The names of the fields that are written for every event. -/
def sharedNames : List String :=
  ["hook_event_name", "session_id", "transcript_path", "cwd",
   "permission_mode"]

/-- No payload has one of the shared names. -/
theorem last?_payload_shared (p : Payload) {name : String}
    (h : name ∈ sharedNames) : last? (payloadFields p) name = none := by
  simp only [sharedNames, List.mem_cons, List.not_mem_nil, or_false] at h
  rcases h with rfl | rfl | rfl | rfl | rfl <;>
    cases p <;> simp [payloadFields, callFields]

/-- The object of an event has one of the shared names. -/
theorem get?_shared (e : Event) {name : String} (h : name ∈ sharedNames) :
    e.toJson.get? name
      = last? (("hook_event_name", .str e.kind.wireName)
          :: commonFields e.common) name := by
  unfold toJson
  rw [Json.get?_ofFields, last?_append, last?_payload_shared e.payload h,
    Option.none_or]

/-- Every other name is one of the payload. -/
theorem get?_payload (e : Event) {name : String} (h : name ∉ sharedNames) :
    e.toJson.get? name = last? (payloadFields e.payload) name := by
  simp only [sharedNames, List.mem_cons, List.not_mem_nil, or_false,
    not_or] at h
  obtain ⟨hkind, hsession, htranscript, hcwd, hmode⟩ := h
  unfold toJson
  rw [Json.get?_ofFields, last?_append]
  simp [commonFields, hkind, hsession, htranscript, hcwd, hmode]

-- =================================================================== reading back

section

variable {e : Event} {fs : Fields}

/-- The fields that every event has are read back. -/
theorem readCommon?_toJson (hobj : e.toJson = .obj fs) (hasc : Ascending fs) :
    readCommon? fs = some e.common := by
  have hget : ∀ name ∈ sharedNames, (Json.obj fs).get? name
      = last? (("hook_event_name", .str e.kind.wireName)
          :: commonFields e.common) name := by
    intro name hname
    rw [← hobj]
    exact e.get?_shared hname
  have hsession : (Json.obj fs).get? "session_id"
      = some (.str e.common.sessionId) := hget _ (by decide)
  have htranscript : (Json.obj fs).get? "transcript_path"
      = some (.str e.common.transcriptPath) := hget _ (by decide)
  have hcwd : (Json.obj fs).get? "cwd" = some (.str e.common.cwd) :=
    hget _ (by decide)
  have hmode : (Json.obj fs).get? "permission_mode"
      = some (.str e.common.permissionMode.name) := hget _ (by decide)
  unfold readCommon?
  rw [hasc.required?_eq, hsession, hasc.default?_eq, htranscript,
    hasc.default?_eq, hcwd, hasc.default?_eq, hmode]
  show (PermissionMode.ofName? e.common.permissionMode.name).bind _ = _
  rw [PermissionMode.ofName?_name]
  rfl

/-- The names of the fields that hold a tool call. -/
def callNames : List String := ["tool_name", "tool_input", "tool_use_id"]

/-- A tool call is read back from fields that hold it. -/
theorem readCall?_written {call : ToolCall} (hasc : Ascending fs)
    (hget : ∀ name ∈ callNames,
      (Json.obj fs).get? name = last? (callFields call) name) :
    readCall? fs = some call := by
  have hname : (Json.obj fs).get? "tool_name" = some (.str call.name) := by
    rw [hget _ (by decide)]
    simp [callFields]
  have hinput : (Json.obj fs).get? "tool_input" = some call.input := by
    rw [hget _ (by decide)]
    simp [callFields]
  have huse : (Json.obj fs).get? "tool_use_id" = call.useId.map .str := by
    rw [hget _ (by decide)]
    simp [callFields]
  unfold readCall?
  rw [hasc.required?_eq, hname, hasc.required?_eq, hinput,
    hasc.optional?_written huse (fun _ => rfl) fun _ => rfl]
  rfl

/-- The payload is read back by the kind of its event. -/
theorem readPayload?_toJson (hobj : e.toJson = .obj fs)
    (hasc : Ascending fs) : readPayload? fs e.kind = some e.payload := by
  have hget : ∀ name, name ∉ sharedNames →
      (Json.obj fs).get? name = last? (payloadFields e.payload) name := by
    intro name hname
    rw [← hobj]
    exact e.get?_payload hname
  have hcall : ∀ name ∈ callNames, name ∉ sharedNames := by decide
  obtain ⟨common, payload⟩ := e
  cases payload with
  | preToolUse call =>
      show (readCall? fs).map _ = _
      rw [readCall?_written hasc fun name hname => hget name (hcall name hname)]
      rfl
  | postToolUse call response =>
      have hresponse : (Json.obj fs).get? "tool_response" = some response := by
        rw [hget _ (by decide)]
        simp [payloadFields, callFields]
      have hfields : ∀ name ∈ callNames,
          (Json.obj fs).get? name = last? (callFields call) name := by
        intro name hname
        rw [hget name (hcall name hname)]
        simp only [callNames, List.mem_cons, List.not_mem_nil, or_false] at hname
        rcases hname with rfl | rfl | rfl <;> simp [payloadFields]
      show (readCall? fs).bind _ = _
      rw [readCall?_written hasc hfields, Option.bind_some, hasc.default?_eq,
        hresponse]
      rfl
  | permissionRequest call =>
      show (readCall? fs).map _ = _
      rw [readCall?_written hasc fun name hname => hget name (hcall name hname)]
      rfl
  | userPromptSubmit prompt =>
      show (Fields.required? fs "prompt" _).map _ = _
      rw [hasc.required?_eq, hget "prompt" (by decide)]
      rfl
  | sessionStart source =>
      show (Fields.default? fs "source" _ _).map _ = _
      rw [hasc.default?_eq, hget "source" (by decide)]
      show (SessionSource.ofName? source.name).map _ = _
      rw [SessionSource.ofName?_name]
      rfl
  | sessionEnd reason =>
      show (Fields.default? fs "reason" _ _).map _ = _
      rw [hasc.default?_eq, hget "reason" (by decide)]
      show some (Payload.sessionEnd (SessionEndReason.ofName reason.name)) = _
      rw [SessionEndReason.ofName_name]
  | stop active =>
      show (Fields.default? fs "stop_hook_active" _ _).map _ = _
      rw [hasc.default?_eq, hget "stop_hook_active" (by decide)]
      rfl
  | subagentStop active =>
      show (Fields.default? fs "stop_hook_active" _ _).map _ = _
      rw [hasc.default?_eq, hget "stop_hook_active" (by decide)]
      rfl
  | preCompact trigger instructions =>
      have htrigger : (Json.obj fs).get? "trigger"
          = some (.str trigger.name) := by
        rw [hget _ (by decide)]
        simp [payloadFields]
      have hinstructions : (Json.obj fs).get? "custom_instructions"
          = instructions.map .str := by
        rw [hget _ (by decide)]
        simp [payloadFields]
      show (Fields.default? fs "trigger" _ _).bind _ = _
      rw [hasc.default?_eq, htrigger]
      show (CompactTrigger.ofName? trigger.name).bind _ = _
      rw [CompactTrigger.ofName?_name, Option.bind_some,
        hasc.optional?_written hinstructions (fun _ => rfl) fun _ => rfl]
      rfl
  | notification message =>
      show (Fields.default? fs "message" _ _).map _ = _
      rw [hasc.default?_eq, hget "message" (by decide)]
      rfl

end

/-- An event is read back from the object that it is written as. -/
theorem ofJson?_toJson (e : Event) : ofJson? e.toJson = some e := by
  obtain ⟨fs, hobj, hasc⟩ : ∃ fs, e.toJson = .obj fs ∧ Ascending fs :=
    Json.ofFields_eq_obj _
  have hkind := e.get?_shared (show "hook_event_name" ∈ sharedNames by decide)
  rw [hobj] at hkind ⊢
  show (Fields.required? fs "hook_event_name" _).bind _ = _
  rw [hasc.required?_eq, hkind]
  show (EventKind.ofWireName? e.kind.wireName).bind _ = _
  rw [EventKind.ofWireName?_wireName, Option.bind_some,
    readCommon?_toJson hobj hasc]
  show (readPayload? fs e.kind).bind _ = _
  rw [readPayload?_toJson hobj hasc]
  rfl

end Event

-- ============================================================== views of contexts

/-- A field that no later one replaces can be set last. -/
theorem Fields.ofList_insert {name : String} (v : Json) (before : Fields)
    {after : Fields} (h : ∀ f ∈ after, name ≠ f.1) :
    ofList (before ++ (name, v) :: after)
      = insert name v (overlay (ofList before) after) := by
  calc ofList (before ++ (name, v) :: after)
      = overlay (ofList before) ((name, v) :: after) :=
        overlay_append [] before _
    _ = overlay (insert name v (ofList before)) after := rfl
    _ = insert name v (overlay (ofList before) after) :=
        overlay_insert_base v h _

/-- Of the view of a context only the time depends on when it is taken. -/
theorem Context.view_at (c : Context) (timestamp other : String) :
    c.view other = Fields.insert "timestamp" (.str other) (c.view timestamp) := by
  obtain ⟨before, after, hsplit, hnames⟩ : ∃ before after : Fields,
      (∀ t, c.entries t = before ++ ("timestamp", .str t) :: after)
        ∧ after.map (·.1) = fieldNames.drop 3 :=
    ⟨(c.entries "").take 2, (c.entries "").drop 3, fun _ => rfl, rfl⟩
  have hafter : ∀ f ∈ after, "timestamp" ≠ f.1 := by
    intro f hf heq
    have hname : f.1 ∈ fieldNames.drop 3 :=
      hnames ▸ List.mem_map_of_mem hf
    rw [← heq] at hname
    exact absurd hname (by decide)
  unfold view
  rw [hsplit, hsplit, Fields.ofList_insert _ before hafter,
    Fields.ofList_insert _ before hafter, Fields.insert_insert]

/-- Whatever value an event was read from, the object that it is written as can
be read, and gives an event of the same kind with the same data. So evaluations
of the two see the same context, apart from the time at which they take it. -/
theorem event_is_read_back (e : Event) :
    ∃ e', Event.ofJson? e.toJson = some e'
      ∧ e'.kind = e.kind ∧ e'.common = e.common ∧ e'.payload = e.payload
      ∧ ∀ (directory timestamp other : String) (projectDir : Option String)
          (git : Option GitState) (project : Option ProjectState),
        { Context.ofEvent directory e' with projectDir, git, project }.view other
          = Fields.insert "timestamp" (.str other)
            ({ Context.ofEvent directory e with projectDir, git, project }.view
              timestamp) :=
  ⟨e, e.ofJson?_toJson, rfl, rfl, rfl,
    fun _ timestamp other _ _ _ => Context.view_at _ timestamp other⟩

end HookRules
