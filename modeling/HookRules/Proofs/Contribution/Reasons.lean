/-
Where the reason of a refusal comes from.

Three kinds of actions refuse: a denial by itself, and programs and callables by
what they answer. `Reason` lists what they can say, and nothing else ends in a
refusal (`reason_of_blocked`). Sending text, granting, and changing the input do
not refuse at all, so only the decision that stands last in an answer has to be
looked at.

# Blank reasons

A rule is named where no reason is given, and that says something whatever the
name is (`blockText_not_blank`). The answer of an automation and the description of a
rule are replaced by it when they are blank. The text of a denial is not: its
placeholders may leave nothing but blanks, and then this is the reason. Whether
they do is read off the scan of the text: every piece of it is a blank that is
copied or a placeholder whose value shows nothing but blanks
(`isBlankText_fill_iff`).
-/
import HookRules.Proofs.Contribution.Directives
import HookRules.Proofs.Rule.EventNames
import HookRules.Proofs.Template.Scan

namespace HookRules

-- =============================================================== blank texts

/-- A text says something if a character of it is no blank. -/
theorem Text.isBlankText_eq_false_iff {s : String} :
    Text.isBlankText s = false ↔ ∃ c ∈ s.toList, Text.isBlank c = false := by
  unfold Text.isBlankText
  simp only [List.all_eq_false, Bool.not_eq_true]

/-- Nothing is left of a text that is blank when it is trimmed. -/
theorem Text.trim_eq_empty {s : String}
    (h : Text.isBlankText (Text.trim s) = true) : Text.trim s = "" := by
  unfold Text.isBlankText Text.trim at h
  rw [String.toList_ofList, List.all_eq_true] at h
  have hnone : (Text.trimChars s.toList).dropWhile Text.isBlank = [] :=
    List.dropWhile_eq_nil_iff.mpr h
  rw [Text.dropWhile_trimChars] at hnone
  rw [Text.trim, hnone]

namespace Rule

/-- What stands in for a reason says something. -/
theorem blockText_not_blank (r : Rule) : Text.isBlankText r.blockText = false := by
  have hfront : 'B' ∈ "Blocked by rule '".toList := by decide
  refine Text.isBlankText_eq_false_iff.mpr ⟨'B', ?_, by decide⟩
  unfold blockText
  rw [String.toList_append, String.toList_append]
  exact List.mem_append_left _ (List.mem_append_left _ hfront)

/-- A description says something, or it is replaced by what does. -/
theorem describedOr_not_blank (r : Rule) {other : String}
    (h : Text.isBlankText other = false) :
    Text.isBlankText (r.describedOr other) = false := by
  unfold describedOr
  cases r.description with
  | none => exact h
  | some description =>
      rw [Option.map_some]
      by_cases hempty : Text.trim description = ""
      · rw [Option.filter_some_neg (by simpa using hempty)]
        exact h
      · rw [Option.filter_some_pos (by simpa using hempty), Option.getD_some,
          Bool.eq_false_iff]
        exact mt Text.trim_eq_empty hempty

end Rule

-- =================================================================== origins

/-- What can be said by an action that refuses. A reason of an automation is
kept with the value that it was read from. -/
inductive Reason (o : Occasion) (a : Action) : String → Prop where
  /-- A denial says its text, filled with the values of the event. -/
  | ownText {text : String} (hkind : a.kind = .deny) (h : a.text = some text) :
      Reason o a (o.render text)
  /-- A denial without a text names the rule. -/
  | noText (hkind : a.kind = .deny) (h : a.text = none) :
      Reason o a o.rule.blockText
  /-- An automation answers under the name of the directive. -/
  | answered {reason : String} (hkind : a.kind = .shell ∨ a.kind = .callable)
      (value : Option Json) (h : Refuses o.rule value reason) : Reason o a reason

namespace Contribution

variable {o : Occasion} {a : Action} {reason : String}

/-- The reason that is found is one that the directive stands for. With
`refusalReason?_of_refuses` this is an equivalence. -/
theorem refuses_of_refusalReason? {payload : Fields}
    (h : refusalReason? o payload = some reason) :
    Refuses o.rule (Fields.get? payload "deny") reason := by
  unfold refusalReason? at h
  split at h
  · next hvalue =>
      cases h
      rw [hvalue]
      exact .plainly
  · next text hvalue =>
      rw [hvalue]
      split at h
      · next hblank =>
          cases h
          exact .blankly (List.all_eq_true.mp hblank)
      · next hblank =>
          cases h
          have hstands := Bool.eq_false_iff.mpr hblank
          exact .saying (Text.isBlankText_eq_false_iff.mp hstands)
  · cases h

/-- A payload that ends in a refusal was asked for it by its `deny`. -/
theorem directives_blocked {payload : Fields}
    (h : (directives o a payload).ending = .blocked reason) :
    Refuses o.rule (Fields.get? payload "deny") reason := by
  rw [directives_ending, decision] at h
  split at h
  · next own hown =>
      cases h
      exact refuses_of_refusalReason? hown
  · split at h <;> cases h

/-- A text refuses only as an object of directives; passed on as plain text it
does not. -/
theorem answer_blocked {text : String}
    (h : (answer o a text).ending = .blocked reason) :
    ∃ value, Refuses o.rule value reason := by
  unfold answer at h
  split at h
  · exact ⟨_, directives_blocked h⟩
  · rw [route_done] at h
    cases h

/-- A program refuses by what it prints, if it succeeded. Its standard error is
routed and refuses nothing. -/
theorem shell_blocked (h : (shell o a).ending = .blocked reason) :
    ∃ value, Refuses o.rule value reason := by
  unfold shell at h
  cases hrun : Process.run o a .none with
  | error fault =>
      rw [hrun] at h
      cases h
  | ok output =>
      rw [hrun] at h
      dsimp only [ofResult] at h
      rw [andThen_of_done _ (route_done ..)] at h
      dsimp only at h
      split at h
      · exact answer_blocked h
      · cases h
      · cases h

/-- A callable refuses by the object, or the text of an object, that it
answers. -/
theorem call_blocked (h : (call o a).ending = .blocked reason) :
    ∃ value, Refuses o.rule value reason := by
  unfold call at h
  split at h
  · cases h
  · next name _ =>
      cases hanswer : o.entrypoints.invoke name (.obj o.view)
          (o.settings.timeoutFor a.timeoutMs) with
      | error fault =>
          rw [hanswer] at h
          cases h
      | ok value =>
          rw [hanswer] at h
          dsimp only [ofResult] at h
          cases value with
          | obj payload => exact ⟨_, directives_blocked h⟩
          | str text => exact answer_blocked h
          | null | bool _ | num _ | arr _ => cases h

end Contribution

/-- What an action refuses with is one of the reasons that it can give. -/
theorem reason_of_blocked {o : Occasion} {updated : Fields} {a : Action}
    {reason : String}
    (h : (contribution o updated a).ending = .blocked reason) :
    Reason o a reason := by
  unfold contribution at h
  cases hkind : a.kind with
  | deny =>
      rw [hkind] at h
      cases h
      cases htext : a.text with
      | none => exact .noText hkind htext
      | some text => exact .ownText hkind htext
  | shell =>
      rw [hkind] at h
      obtain ⟨value, hrefuses⟩ := Contribution.shell_blocked h
      exact .answered (Or.inl hkind) value hrefuses
  | callable =>
      rw [hkind] at h
      obtain ⟨value, hrefuses⟩ := Contribution.call_blocked h
      exact .answered (Or.inr hkind) value hrefuses
  | suggest | inject =>
      rw [hkind, ← Ending.refusal?_eq_some_iff, Contribution.inject_refusal] at h
      cases h
  | modify =>
      rw [hkind, ← Ending.refusal?_eq_some_iff, Contribution.modify_refusal] at h
      cases h
  | transform =>
      rw [hkind, ← Ending.refusal?_eq_some_iff,
        Contribution.transform_refusal] at h
      cases h
  | allow | warn | log | noop =>
      rw [hkind] at h
      cases h

-- ============================================================= blank reasons

/-- An automation that refuses says something. -/
theorem Refuses.not_blank {r : Rule} {value : Option Json} {reason : String}
    (h : Refuses r value reason) : Text.isBlankText reason = false := by
  cases h with
  | plainly | blankly _ => exact r.blockText_not_blank
  | saying hstands => exact Text.isBlankText_eq_false_iff.mpr hstands

/-- What is filled into a text is blank exactly if every piece of its scan is
replaced by blanks or by nothing. -/
theorem isBlankText_fill_iff {text : String} {pieces : List Template.Piece}
    (h : Template.IsScan pieces text.toList) (view : Fields) :
    Text.isBlankText (Template.fill text view) = true
      ↔ ∀ piece ∈ pieces, ∀ c ∈ piece.filled view, Text.isBlank c = true := by
  rw [Template.fill_eq_flatMap h, Text.isBlankText, String.toList_ofList,
    List.all_eq_true]
  exact List.forall_mem_flatMap

/-- A denial has a text of its own, and the values of an event leave nothing but
blanks of it: the pieces of the text are blanks and placeholders for values that
show nothing but blanks. -/
structure Action.LosesText (view : Fields) (a : Action) (text : String) :
    Prop where
  kind : a.kind = .deny
  own : a.text = some text
  lost : ∃ pieces, Template.IsScan pieces text.toList
    ∧ ∀ piece ∈ pieces, ∀ c ∈ piece.filled view, Text.isBlank c = true

/-- What is left of a text that is lost is blank. -/
theorem Action.LosesText.blank {view : Fields} {a : Action} {text : String}
    (h : a.LosesText view text) :
    Text.isBlankText (Template.fill text view) = true := by
  obtain ⟨pieces, hscan, hlost⟩ := h.lost
  exact (isBlankText_fill_iff hscan view).mpr hlost

/-- The only blank reason is what is left of the text of a denial: names of rules
say something, and automations are not heard when they answer blanks. -/
theorem loses_text_of_blank_reason {o : Occasion} {a : Action} {reason : String}
    (h : Reason o a reason) (hblank : Text.isBlankText reason = true) :
    ∃ text, a.LosesText o.view text ∧ Template.fill text o.view = reason := by
  cases h with
  | @ownText text hkind htext =>
      obtain ⟨pieces, hscan, -⟩ := Template.exists_scan text.toList
      have hlost := (isBlankText_fill_iff hscan o.view).mp hblank
      exact ⟨text, ⟨hkind, htext, pieces, hscan, hlost⟩, rfl⟩
  | noText _ _ =>
      rw [o.rule.blockText_not_blank] at hblank
      cases hblank
  | answered _ _ hrefuses =>
      rw [hrefuses.not_blank] at hblank
      cases hblank

end HookRules
