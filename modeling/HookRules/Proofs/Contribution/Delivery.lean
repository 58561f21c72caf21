/-
The ways to deliver an answer.

An automation answers with an object of directives in three ways (`Delivers`): a
program prints text of the object, a callable returns the object, or it returns the
text. Text passes through more stages than an object does. Each of them keeps
well-formed text as it is: nothing of it is replaced when its bytes are decoded,
nothing is cut off if it fits, trimming takes the blanks around it and no more, and
the reader reads it to the object again, up to fractions. No directive looks at a
fraction (`directives_coarse`), so in the end all three come to the directives of the
object (`contribution_of_delivery`).
-/
import HookRules.Proofs.Contribution.Directives
import HookRules.Proofs.Json.Printing
import HookRules.Proofs.Text.Decoding
import Mathlib

namespace HookRules

open Json (Spells SpellsChars Numeral)

-- =================================================================== trimming

namespace Text

/-- Blanks in front are dropped, up to the first character that is none. -/
theorem dropWhile_blanks {b rest : List Char} (hb : ∀ c ∈ b, isBlank c = true)
    (hrest : ∀ c ∈ rest.head?, isBlank c = false) :
    (b ++ rest).dropWhile isBlank = rest := by
  rw [List.dropWhile_append_of_pos hb]
  cases rest with
  | nil => rfl
  | cons c rest =>
      refine List.dropWhile_cons_of_neg ?_
      rw [hrest c rfl]
      exact Bool.false_ne_true

/-- Trimming takes the blanks around a text that starts and ends with none. -/
theorem trimChars_padded {b d cs : List Char} (hb : ∀ c ∈ b, isBlank c = true)
    (hd : ∀ c ∈ d, isBlank c = true)
    (hhead : ∀ c ∈ cs.head?, isBlank c = false)
    (hlast : ∀ c ∈ cs.getLast?, isBlank c = false) (hne : cs ≠ []) :
    trimChars (b ++ (cs ++ d)) = cs := by
  have hfront : ∀ c ∈ (cs ++ d).head?, isBlank c = false := by
    rw [List.head?_append_of_ne_nil _ hne]
    exact hhead
  have hback : ∀ c ∈ cs.reverse.head?, isBlank c = false := by
    rw [List.head?_reverse]
    exact hlast
  have hblanks : ∀ c ∈ d.reverse, isBlank c = true :=
    fun c hc => hd c (List.mem_reverse.mp hc)
  unfold trimChars
  rw [dropWhile_blanks hb hfront, List.reverse_append,
    dropWhile_blanks hblanks hback, List.reverse_reverse]

end Text

-- ======================================================================= text

namespace Json

/-- Text of an object starts and ends with a brace. -/
theorem IsTextOf.braces {cs : List Char} {fields : Fields}
    (h : IsTextOf cs (.obj fields)) : ∃ inner, cs = '{' :: inner ++ ['}'] := by
  obtain ⟨w, hspells, -, hsame⟩ := h
  obtain ⟨fs, hobj, -⟩ := hsame.exists_fields
  cases w with
  | obj fs =>
      cases hspells with
      | noFields hb => exact ⟨_, rfl⟩
      | obj h => exact ⟨_, rfl⟩
  | _ => cases hobj

end Json

/-- A text that holds text of a value and blanks around it. -/
def HoldsTextOf (text : String) (v : Json) : Prop :=
  ∃ b cs d : List Char, text.toList = b ++ (cs ++ d)
    ∧ (∀ c ∈ b, Text.isBlank c = true) ∧ (∀ c ∈ d, Text.isBlank c = true)
    ∧ Json.IsTextOf cs v

/-- Without the blanks around it text of an object is read to that object, up to
fractions. -/
theorem HoldsTextOf.read {text : String} {fields : Fields}
    (h : HoldsTextOf text (.obj fields)) :
    ∃ fs : Fields, Json.read? (Text.trim text) = some (.obj fs)
      ∧ (Json.obj fs).SameButFractions (.obj fields) := by
  obtain ⟨b, cs, d, htext, hb, hd, hcs⟩ := h
  have htrim : Text.trim text = String.ofList cs := by
    obtain ⟨inner, hinner⟩ := hcs.braces
    unfold Text.trim
    rw [htext, Text.trimChars_padded hb hd]
    · intro c hc
      rw [hinner] at hc
      obtain rfl := Option.some.inj hc
      rfl
    · intro c hc
      rw [hinner, List.getLast?_concat] at hc
      obtain rfl := Option.some.inj hc
      rfl
    · rw [hinner]
      exact List.cons_ne_nil _ _
  obtain ⟨w, hread, hsame⟩ := Json.read?_of_isTextOf hcs
  obtain ⟨fs, rfl, -⟩ := hsame.exists_fields
  rw [htrim]
  exact ⟨fs, hread, hsame⟩

/-- The compact text of a value holds it. -/
theorem HoldsTextOf.render {v : Json} (hnormal : v.Normal) (hints : v.HoldsJsonInts)
    (hnests : v.NestsWithin Json.Reader.maxNesting) : HoldsTextOf v.render v := by
  have htext := Json.isTextOf_chars hints hnests
  rw [hnormal.normalize_eq] at htext
  refine ⟨[], v.chars, [], ?_, List.forall_mem_nil _, List.forall_mem_nil _, htext⟩
  unfold Json.render
  rw [String.toList_ofList, List.append_nil, List.nil_append]

-- ================================================================= directives

namespace Contribution

/-- A text under a name is no fraction, so it is found in both. -/
theorem textsAt_coarse (payload : Fields) (name : String) :
    Fields.textsAt (Json.coarseFields payload) name
      = Fields.textsAt payload name := by
  unfold Fields.textsAt
  rw [Json.get?_coarse]
  cases Fields.get? payload name with
  | none => rfl
  | some v =>
      cases v with
      | num n => cases n <;> rfl
      | _ => rfl

/-- What refuses is the literal true or a text. -/
theorem refusalReason?_coarse (o : Occasion) (payload : Fields) :
    refusalReason? o (Json.coarseFields payload) = refusalReason? o payload := by
  unfold refusalReason?
  rw [Json.get?_coarse]
  cases Fields.get? payload "deny" with
  | none => rfl
  | some v =>
      cases v with
      | num n => cases n <;> rfl
      | _ => rfl

/-- What grants is the literal true. -/
theorem grants_coarse (payload : Fields) :
    grants (Json.coarseFields payload) = grants payload := by
  unfold grants
  rw [Json.get?_coarse]
  cases Fields.get? payload "allow" with
  | none => rfl
  | some v =>
      cases v with
      | num n => cases n <;> rfl
      | _ => rfl

/-- No directive looks at a fraction. -/
theorem directives_coarse (o : Occasion) (a : Action) (payload : Fields) :
    directives o a (Json.coarseFields payload) = directives o a payload := by
  unfold directives decision
  rw [injectDirective_eq, injectDirective_eq, warnDirective_eq,
    warnDirective_eq, textsAt_coarse, textsAt_coarse, refusalReason?_coarse,
    grants_coarse]

/-- The directives of two payloads that differ in fractions are the same, since
no directive looks at a number. -/
theorem directives_of_sameButFractions (o : Occasion) (a : Action)
    {payload other : Fields}
    (h : (Json.obj other).SameButFractions (.obj payload)) :
    directives o a other = directives o a payload := by
  have hfields : Json.coarseFields other = Json.coarseFields payload :=
    Json.obj.inj h
  rw [← directives_coarse o a other, hfields, directives_coarse]

/-- Of the action only the interruption that goes with a refusal is looked at. -/
theorem directives_of_interrupt (o : Occasion) {a a' : Action}
    (h : a.interrupt = a'.interrupt) (payload : Fields) :
    directives o a payload = directives o a' payload := by
  unfold directives decision
  rw [h]

/-- Of the occasion the rule and the kind of the event are looked at. -/
theorem directives_of_occasion {o o' : Occasion} (hrule : o.rule = o'.rule)
    (hkind : o.kind = o'.kind) (a : Action) (payload : Fields) :
    directives o a payload = directives o' a payload := by
  unfold directives injectDirective decision refusalReason? refuse grant
  rw [hrule, hkind]

/-- Text of an object answers with the directives of the object. -/
theorem answer_of_text (o : Occasion) (a : Action) {text : String}
    {payload : Fields} (h : HoldsTextOf text (.obj payload)) :
    answer o a text = directives o a payload := by
  obtain ⟨fs, hread, hsame⟩ := h.read
  unfold answer
  rw [hread]
  exact directives_of_sameButFractions o a hsame

end Contribution

-- ================================================================ the three ways

/-- An action answers with an object of directives. -/
inductive Delivers (o : Occasion) (payload : Fields) (a : Action) : Prop where
  /-- A program that ends well and in time prints text of the object, which fits
  into the limit of the output, and has nothing to say on standard error. -/
  | printed {request : ProcessRequest} {elapsedMs : Nat} {text : String}
      (hkind : a.kind = .shell) (hrequest : Process.request o a .none = .ok request)
      (hvalid : Process.isValid request = true)
      (hrun : o.runner request
        = .ok ⟨elapsedMs, .exited 0, Text.bytes text, []⟩)
      (htime : overruns (o.settings.timeoutFor a.timeoutMs) elapsedMs = false)
      (hsize : text.utf8ByteSize ≤ o.settings.maxOutputBytes)
      (htext : HoldsTextOf text (.obj payload))
  /-- A callable returns the object. -/
  | returned {name : String} (hkind : a.kind = .callable)
      (hname : a.entrypoint = some name)
      (hcall : o.entrypoints.invoke name (.obj o.view)
        (o.settings.timeoutFor a.timeoutMs) = .ok (.obj payload))
  /-- A callable returns text of the object. -/
  | returnedText {name text : String} (hkind : a.kind = .callable)
      (hname : a.entrypoint = some name)
      (hcall : o.entrypoints.invoke name (.obj o.view)
        (o.settings.timeoutFor a.timeoutMs) = .ok (.str text))
      (htext : HoldsTextOf text (.obj payload))

/-- The output of a program is the text that it prints, if that fits, whatever it
can read and whatever it says on standard error. -/
theorem Process.run_of_text {o : Occasion} {a : Action} {standard : StdinMode}
    {request : ProcessRequest} {elapsedMs : Nat} {text : String}
    {errors : List UInt8}
    (hrequest : Process.request o a standard = .ok request)
    (hvalid : Process.isValid request = true)
    (hrun : o.runner request
      = .ok ⟨elapsedMs, .exited 0, Text.bytes text, errors⟩)
    (htime : overruns (o.settings.timeoutFor a.timeoutMs) elapsedMs = false)
    (hsize : text.utf8ByteSize ≤ o.settings.maxOutputBytes) :
    Process.run o a standard
      = .ok ⟨text, (Text.decodeUpTo o.settings.maxOutputBytes errors).1,
          .exited 0⟩ := by
  unfold Process.run
  rw [hrequest]
  dsimp only [Except.bind]
  rw [if_pos hvalid, hrun]
  dsimp only
  rw [htime, if_neg Bool.false_ne_true, Text.decodeUpTo_text hsize]

theorem Contribution.nothing_andThen (c : Contribution) :
    nothing.andThen c = c := rfl

/-- A program that ends well and says nothing on standard error answers with what
it prints. -/
theorem Contribution.shell_of_output {o : Occasion} {a : Action} {text : String}
    (h : Process.run o a .none = .ok ⟨text, "", .exited 0⟩) :
    shell o a = answer o a text := by
  have hsilent : ∀ mode, route o mode .stderr "" = nothing := fun _ => rfl
  unfold shell
  rw [h]
  dsimp only [ofResult]
  rw [hsilent, nothing_andThen]
  generalize answer o a text = c
  rfl

/-- In each way the action does what the directives say, and nothing else. -/
theorem contribution_of_delivery {o : Occasion} {payload : Fields} {a : Action}
    (h : Delivers o payload a) (updated : Fields) :
    contribution o updated a = Contribution.directives o a payload := by
  unfold contribution
  cases h with
  | printed hkind hrequest hvalid hrun htime hsize htext =>
      rw [hkind]
      exact (Contribution.shell_of_output
        (Process.run_of_text hrequest hvalid hrun htime hsize)).trans
          (Contribution.answer_of_text o a htext)
  | returned hkind hname hcall =>
      rw [hkind]
      show Contribution.call o a = _
      unfold Contribution.call
      rw [hname]
      dsimp only
      rw [hcall]
      rfl
  | returnedText hkind hname hcall htext =>
      rw [hkind]
      show Contribution.call o a = _
      unfold Contribution.call
      rw [hname]
      dsimp only
      rw [hcall]
      dsimp only [Contribution.ofResult]
      rw [Contribution.answer_of_text o a htext]

/-- However an object of directives is delivered, with whatever spelling of it and
with whatever blanks around it, and wherever plain text would have gone: the action
contributes the same, so it has the same effect on every accumulator, logs the same
and ends in the same way, and that is not a failure. -/
theorem deliveries_agree {o o' : Occasion} {payload : Fields} {a a' : Action}
    (hrule : o.rule = o'.rule) (hkind : o.kind = o'.kind)
    (hinterrupt : a.interrupt = a'.interrupt) (h : Delivers o payload a)
    (h' : Delivers o' payload a') (updated updated' : Fields) :
    contribution o updated a = contribution o' updated' a'
      ∧ ∀ fault, (contribution o updated a).ending ≠ .failed fault := by
  have hsame : Contribution.directives o a payload
      = Contribution.directives o' a' payload := by
    rw [Contribution.directives_of_interrupt o hinterrupt]
    exact Contribution.directives_of_occasion hrule hkind a' payload
  rw [contribution_of_delivery h, contribution_of_delivery h']
  exact ⟨hsame, (Contribution.directives_calm o a payload).certain⟩

/-- Text with an escape, a fraction, fields out of order and blanks of more kinds
than JSON has. A program prints it, with just enough room for it, and three
callables return the object, the text and the compact text of the object. -/
theorem deliveries_of_odd_text :
    let text := "\u00a0\x7b \"warn\": \"\\u00e9☕\",\n\"n\" :1.5\x7d\n"
    let payload : Fields := [("n", .num (.float .zero)), ("warn", .str "é☕")]
    let o : Occasion :=
      { context := Context.ofEvent "/" ⟨{ sessionId := "s" }, .stop false⟩
        view := []
        rule := { id := "r" }
        settings := { maxOutputBytes := 42 }
        entrypoints := ⟨[("m", [
          ("object", .callable fun _ => ⟨0, .returned (.obj payload)⟩),
          ("text", .callable fun _ => ⟨0, .returned (.str text)⟩),
          ("compact", .callable fun _ =>
            ⟨0, .returned (.str (Json.obj payload).render)⟩)])]⟩
        host := ⟨.empty, none, "/"⟩
        runner := fun _ => .ok ⟨0, .exited 0, Text.bytes text, []⟩ }
    let printing : Action :=
      { kind := .shell, command := some "check", stdout := some .ignore }
    let object : Action :=
      { kind := .callable, entrypoint := some "m:object" }
    let spelled : Action :=
      { kind := .callable, entrypoint := some "m:text" }
    let compact : Action :=
      { kind := .callable, entrypoint := some "m:compact" }
    contribution o [] printing = contribution o [] object
      ∧ contribution o [] spelled = contribution o [] object
      ∧ contribution o [] compact = contribution o [] object
      ∧ (Accumulator.applyAll {} (contribution o [] spelled).effects).systemMessages
        = ["é☕"] := by
  intro text payload o printing object spelled compact
  let x : Binary64 := ⟨false, 4609434218613702656, by decide⟩
  let l : Numeral :=
    ⟨false, ⟨['1'], List.all_eq_true.mp rfl, List.cons_ne_nil _ _⟩, by decide,
      some ⟨['5'], List.all_eq_true.mp rfl, List.cons_ne_nil _ _⟩, none⟩
  have hwarning : SpellsChars ['é', '☕'] ['\\', 'u', '0', '0', 'e', '9', '☕'] :=
    .code (n := 0xE9) rfl (by decide) (.plainly rfl)
  have hwarn := Spells.field (b := [' ']) (.of_all rfl)
    (SpellsChars.plainly (s := "warn".toList) rfl) .nil
    (.padded (b := [' ']) (.of_all rfl) (.str (s := "é☕") hwarning) .nil)
  have hnumber := Spells.field (b := ['\n']) (d := [' ']) (.of_all rfl)
    (SpellsChars.plainly (s := "n".toList) rfl) (.of_all rfl)
    (.padded .nil (.num l (n := .float x) (by decide +kernel)) .nil)
  have hspells := Spells.obj (.moreFields hwarn (.lastField hnumber))
  have hflat : ∀ f ∈ [("warn", Json.str "é☕"), ("n", .num (.float x))],
      f.2.NestsWithin 126 := by
    simp [Json.NestsWithin]
  have hsame : Json.SameButFractions
      (Json.obj [("warn", .str "é☕"), ("n", .num (.float x))]).normalize
      (.obj payload) := by
    cbv
  have hnormal : (Json.obj payload).Normal := ⟨.obj payload, rfl⟩
  have hints : (Json.obj payload).HoldsJsonInts := by
    simp [payload, Json.HoldsJsonInts, Json.FieldsHoldJsonInts]
  have hnests : (Json.obj payload).NestsWithin Json.Reader.maxNesting := by
    simp [payload, Json.NestsWithin, Json.Reader.maxNesting]
  have htext : HoldsTextOf text (.obj payload) := by
    refine ⟨['\u00a0'], _, ['\n'], ?_, List.all_eq_true.mp rfl,
      List.all_eq_true.mp rfl, _, hspells, hflat, hsame⟩
    decide
  have hprinted : Delivers o payload printing :=
    .printed rfl rfl (by decide +kernel) rfl (by decide +kernel)
      (by decide +kernel) htext
  have hobject : Delivers o payload object := by
    have hname : EntrypointName.ofText? "m:object" = some ⟨"m", "object"⟩ := by
      cbv
    refine .returned rfl rfl ?_
    unfold Entrypoints.invoke Entrypoints.resolve
    rw [hname]
    rfl
  have hspelled : Delivers o payload spelled := by
    have hname : EntrypointName.ofText? "m:text" = some ⟨"m", "text"⟩ := by
      cbv
    refine .returnedText rfl rfl ?_ htext
    unfold Entrypoints.invoke Entrypoints.resolve
    rw [hname]
    rfl
  have hcompact : Delivers o payload compact := by
    have hname : EntrypointName.ofText? "m:compact" = some ⟨"m", "compact"⟩ := by
      cbv
    have hrendered : HoldsTextOf (Json.obj payload).render (.obj payload) :=
      .render hnormal hints hnests
    refine .returnedText rfl rfl ?_ hrendered
    unfold Entrypoints.invoke Entrypoints.resolve
    rw [hname]
    rfl
  have hprinting : printing.interrupt = object.interrupt := rfl
  have hspelling : spelled.interrupt = object.interrupt := rfl
  have hcompacting : compact.interrupt = object.interrupt := rfl
  refine ⟨(deliveries_agree rfl rfl hprinting hprinted hobject [] []).1,
    (deliveries_agree rfl rfl hspelling hspelled hobject [] []).1,
    (deliveries_agree rfl rfl hcompacting hcompact hobject [] []).1, ?_⟩
  rw [contribution_of_delivery hspelled]
  rfl

end HookRules
