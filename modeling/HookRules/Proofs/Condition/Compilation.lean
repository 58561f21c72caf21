/-
What compiling a condition finds.

A condition that is not blank is compiled if it is a phrase of the grammar and
knows every name that it uses (`compile_ok_iff`). A text that is no phrase is
refused for that, and any other for the first unknown one among the symbols of
its tree (`compile_unknown`). These stand in the text from left to right
(`symbols_of_parse`) and places ascend along the text, so it is the unknown name
that stands leftmost (`Leftmost`).

A check by itself says what compiling says. Nothing is evaluated by either, so
no report blames an evaluation.
-/
import HookRules.Condition.Compile
import HookRules.Proofs.Condition.Names
import HookRules.Proofs.Json.Fields

namespace HookRules

namespace Condition

-- =============================================================== known names

namespace Symbol

/-- A field of every context, or a function of the catalog. -/
def Known : Symbol → Prop
  | .variable name => name ∈ Context.fieldNames
  | .function name => name ∈ Builtin.all.map Builtin.name

/-- What is wrong with a name that is not known. -/
def fault : Symbol → Cause
  | .variable name => .unknownVariable name
  | .function name => .unknownFunction name

/-- A known symbol is no problem. -/
theorem problem?_of_known {s : Symbol} (h : s.Known) : s.problem? = none := by
  cases s with
  | «variable» name => exact if_pos (List.contains_iff_mem.mpr h)
  | function name =>
      obtain ⟨f, -, rfl⟩ := List.mem_map.mp h
      exact if_pos (by rw [Builtin.ofName?_name]; rfl)

/-- An unknown one is, and the cause names it. -/
theorem problem?_of_unknown {s : Symbol} (h : ¬ s.Known) :
    s.problem? = some s.fault := by
  cases s with
  | «variable» name =>
      exact if_neg fun hmem => h (List.contains_iff_mem.mp hmem)
  | function name =>
      refine if_neg fun hsome => h ?_
      obtain ⟨f, hf, hname⟩ := List.find?_isSome.mp hsome
      exact List.mem_map.mpr ⟨f, hf, beq_iff_eq.mp hname⟩

theorem problem?_eq_none_iff {s : Symbol} : s.problem? = none ↔ s.Known := by
  refine ⟨fun h => ?_, problem?_of_known⟩
  by_contra hunknown
  rw [problem?_of_unknown hunknown] at h
  cases h

/-- Of symbols that are not all known one is the first. -/
theorem exists_first_unknown {symbols : List Symbol}
    (h : ¬ ∀ s ∈ symbols, s.Known) :
    ∃ before s after, symbols = before ++ s :: after ∧ ¬ s.Known
      ∧ ∀ t ∈ before, t.Known := by
  cases hfind : symbols.findSome? problem? with
  | none =>
      refine absurd (fun s hs => ?_) h
      exact problem?_eq_none_iff.mp (List.findSome?_eq_none_iff.mp hfind s hs)
  | some cause =>
      obtain ⟨before, s, after, rfl, hs, hbefore⟩ :=
        List.findSome?_eq_some_iff.mp hfind
      refine ⟨before, s, after, rfl, fun hknown => ?_,
        fun t ht => problem?_eq_none_iff.mp (hbefore t ht)⟩
      rw [problem?_of_known hknown] at hs
      cases hs

/-- What is wrong with a symbol is found before anything is evaluated. -/
theorem fault_isCompileTime (s : Symbol) : s.fault.isCompileTime = true := by
  cases s <;> rfl

end Symbol

/-- The symbols of a tree are known if the roots of its paths are fields and its
calls are in the catalog. -/
theorem Expr.symbols_known_iff (e : Expr) :
    (∀ s ∈ e.symbols, s.Known)
      ↔ (∀ root steps, .path root steps ∈ e.parts → root ∈ Context.fieldNames)
        ∧ (∀ name args, .call name args ∈ e.parts →
          name ∈ Builtin.all.map Builtin.name) := by
  constructor
  · intro h
    constructor
    · intro root steps hpart
      exact h _ (variable_mem_symbols.mpr ⟨steps, hpart⟩)
    · intro name args hpart
      exact h _ (function_mem_symbols.mpr ⟨args, hpart⟩)
  · rintro ⟨hpath, hcall⟩ s hs
    cases s with
    | «variable» root =>
        obtain ⟨steps, hpart⟩ := variable_mem_symbols.mp hs
        exact hpath root steps hpart
    | function name =>
        obtain ⟨args, hpart⟩ := function_mem_symbols.mp hs
        exact hcall name args hpart

-- ================================================================ compilation

section Compile

variable {source : String}

/-- A text of blanks is compiled to a condition without a tree, which always
matches. -/
theorem compile_blank (h : Text.isBlankText source = true) :
    compile source = .ok ⟨source, none⟩ := if_pos h

/-- A text that is no condition is refused for what the parser found. -/
theorem compile_syntaxError (h : Text.isBlankText source = false)
    {f : SyntaxError} (hparse : parse source = .error f) :
    compile source = .error ⟨source, .syntaxError f⟩ := by
  unfold compile
  rw [if_neg (by rw [h]; exact Bool.false_ne_true), hparse]

/-- A tree is compiled if all its symbols are known. -/
theorem compile_known (h : Text.isBlankText source = false) {e : Expr}
    (hparse : parse source = .ok e) (hknown : ∀ s ∈ e.symbols, s.Known) :
    compile source = .ok ⟨source, some e⟩ := by
  have hnone : e.symbols.findSome? Symbol.problem? = none :=
    List.findSome?_eq_none_iff.mpr fun s hs =>
      Symbol.problem?_of_known (hknown s hs)
  unfold compile
  rw [if_neg (by rw [h]; exact Bool.false_ne_true), hparse]
  dsimp only
  rw [hnone]

/-- A tree is refused for the first of its symbols that is not known. -/
theorem compile_unknown (h : Text.isBlankText source = false) {e : Expr}
    (hparse : parse source = .ok e) {before after : List Symbol} {s : Symbol}
    (hsymbols : e.symbols = before ++ s :: after)
    (hbefore : ∀ t ∈ before, t.Known) (hs : ¬ s.Known) :
    compile source = .error ⟨source, s.fault⟩ := by
  have hsome : e.symbols.findSome? Symbol.problem? = some s.fault :=
    List.findSome?_eq_some_iff.mpr ⟨before, s, after, hsymbols,
      Symbol.problem?_of_unknown hs,
      fun t ht => Symbol.problem?_of_known (hbefore t ht)⟩
  unfold compile
  rw [if_neg (by rw [h]; exact Bool.false_ne_true), hparse]
  dsimp only
  rw [hsome]

/-- A condition comes out as one of four: blank, no phrase, a tree whose names
are known, and a tree with a first name that is not. -/
theorem compile_cases (source : String) :
    (Text.isBlankText source = true ∧ compile source = .ok ⟨source, none⟩)
    ∨ (Text.isBlankText source = false ∧ ∃ f, parse source = .error f
        ∧ compile source = .error ⟨source, .syntaxError f⟩)
    ∨ (Text.isBlankText source = false ∧ ∃ e, parse source = .ok e
        ∧ (∀ s ∈ e.symbols, s.Known) ∧ compile source = .ok ⟨source, some e⟩)
    ∨ (Text.isBlankText source = false ∧ ∃ e before s after,
        parse source = .ok e ∧ e.symbols = before ++ s :: after
        ∧ (∀ t ∈ before, t.Known) ∧ ¬ s.Known
        ∧ compile source = .error ⟨source, s.fault⟩) := by
  cases hblank : Text.isBlankText source with
  | true => exact Or.inl ⟨rfl, compile_blank hblank⟩
  | false =>
      refine Or.inr ?_
      cases hparse : parse source with
      | error f => exact Or.inl ⟨rfl, f, rfl, compile_syntaxError hblank hparse⟩
      | ok e =>
          refine Or.inr ?_
          by_cases hknown : ∀ s ∈ e.symbols, s.Known
          · exact Or.inl ⟨rfl, e, rfl, hknown,
              compile_known hblank hparse hknown⟩
          · obtain ⟨before, s, after, hsymbols, hs, hbefore⟩ :=
              Symbol.exists_first_unknown hknown
            exact Or.inr ⟨rfl, e, before, s, after, rfl, hsymbols, hbefore, hs,
              compile_unknown hblank hparse hsymbols hbefore hs⟩

end Compile

/-- A condition is compiled if it is blank, or if it is a phrase and knows every
name that it uses. -/
theorem compile_ok_iff (source : String) :
    (∃ c, compile source = .ok c)
      ↔ Text.isBlankText source = true
        ∨ ∃ e, parse source = .ok e ∧ ∀ s ∈ e.symbols, s.Known := by
  rcases compile_cases source with ⟨hblank, hc⟩ | ⟨hblank, f, hparse, hc⟩
    | ⟨hblank, e, hparse, hknown, hc⟩
    | ⟨hblank, e, before, s, after, hparse, hsymbols, -, hs, hc⟩
  · exact ⟨fun _ => Or.inl hblank, fun _ => ⟨_, hc⟩⟩
  · rw [hblank, hparse, hc]
    exact ⟨nofun, nofun⟩
  · exact ⟨fun _ => Or.inr ⟨e, hparse, hknown⟩, fun _ => ⟨_, hc⟩⟩
  · rw [hblank, hparse, hc]
    refine ⟨nofun, ?_⟩
    rintro (hfalse | ⟨e', he', hknown⟩)
    · cases hfalse
    · cases he'
      refine absurd (hknown s ?_) hs
      rw [hsymbols]
      exact List.mem_append_right before List.mem_cons_self

/-- Compiling never blames an evaluation. -/
theorem compile_error_cause {source : String} {err : ConditionError}
    (h : compile source = .error err) :
    err.source = source ∧ err.cause.isCompileTime = true := by
  rcases compile_cases source with ⟨-, hc⟩ | ⟨-, f, -, hc⟩ | ⟨-, e, -, -, hc⟩
    | ⟨-, e, before, s, after, -, -, -, -, hc⟩
  · rw [hc] at h
    cases h
  · rw [hc] at h
    cases h
    exact ⟨rfl, rfl⟩
  · rw [hc] at h
    cases h
  · rw [hc] at h
    cases h
    exact ⟨rfl, s.fault_isCompileTime⟩

-- ============================================================= leftmost names

/-- A text shows a name at a place. -/
def Stands (source : String) (s : Symbol) (place : Nat) : Prop :=
  ∃ ts, tokenize source = .ok ts ∧ (s, place) ∈ named ts

/-- An unknown name stands at a place of a text, and none further left. -/
structure Leftmost (source : String) (s : Symbol) (place : Nat) : Prop where
  stands : Stands source s place
  unknown : ¬ s.Known
  least : ∀ t other, Stands source t other → ¬ t.Known → place ≤ other

/-- The first of the symbols that is not known stands leftmost in the text. -/
theorem leftmost_of_symbols {source : String} {e : Expr}
    (hparse : parse source = .ok e) {before after : List Symbol} {s : Symbol}
    (hsymbols : e.symbols = before ++ s :: after)
    (hbefore : ∀ t ∈ before, t.Known) (hs : ¬ s.Known) :
    ∃ place, Leftmost source s place := by
  obtain ⟨ts, hts, hnames⟩ := symbols_of_parse hparse
  rw [hsymbols] at hnames
  obtain ⟨left, right, hnamed, hleft, hright⟩ :=
    List.map_eq_append_iff.mp hnames
  obtain ⟨⟨_, place⟩, later, rfl, rfl, -⟩ := List.map_eq_cons_iff.mp hright
  have hplaces := named_ascending hts
  rw [hnamed, List.pairwise_append, List.pairwise_cons] at hplaces
  refine ⟨place, ⟨ts, hts, ?_⟩, hs, ?_⟩
  · rw [hnamed]
    exact List.mem_append_right left List.mem_cons_self
  · rintro t other ⟨ts', hts', hmem⟩ ht
    rw [hts] at hts'
    cases hts'
    rw [hnamed] at hmem
    rcases List.mem_append.mp hmem with hmem | hmem
    · refine absurd (hbefore t ?_) ht
      rw [← hleft]
      exact List.mem_map_of_mem hmem
    · rcases List.mem_cons.mp hmem with heq | hmem
      · cases heq
        exact Nat.le_refl _
      · exact Nat.le_of_lt (hplaces.2.1.1 _ hmem)

/-- If only names are wrong, the error is about the one that stands leftmost. -/
theorem compile_leftmost {source : String} {e : Expr}
    (hparse : parse source = .ok e) (h : ¬ ∃ c, compile source = .ok c) :
    ∃ s place, Leftmost source s place
      ∧ compile source = .error ⟨source, s.fault⟩ := by
  rcases compile_cases source with ⟨-, hc⟩ | ⟨-, f, hfault, -⟩
    | ⟨-, e, -, -, hc⟩
    | ⟨-, e', before, s, after, he', hsymbols, hbefore, hs, hc⟩
  · exact absurd ⟨_, hc⟩ h
  · rw [hparse] at hfault
    cases hfault
  · exact absurd ⟨_, hc⟩ h
  · obtain ⟨place, hplace⟩ := leftmost_of_symbols he' hsymbols hbefore hs
    exact ⟨s, place, hplace, hc⟩

-- ==================================================================== reports

/-- A condition is reported to be right if it can be compiled. -/
theorem validate_isValid_iff (source : String) :
    (validate source).isValid = true ↔ ∃ c, compile source = .ok c := by
  unfold Report.isValid validate
  dsimp only
  cases compile source with
  | ok c => exact ⟨fun _ => ⟨c, rfl⟩, fun _ => rfl⟩
  | error err => exact ⟨nofun, nofun⟩

/-- What is wrong has a kind in the written report. -/
theorem Report.get?_errorKind (r : Report) :
    r.toJson.get? "error_kind" = r.error.map fun cause => .str cause.name := by
  obtain ⟨source, always, error⟩ := r
  cases error with
  | none => simp [toJson]
  | some cause => cases cause <;> simp [toJson, Cause.name]

/-- A report of a text by itself never shows a failure of evaluation. -/
theorem Cause.name_of_isCompileTime {cause : Cause}
    (h : cause.isCompileTime = true) : cause.name ≠ "evaluation" := by
  cases cause with
  | evaluation _ => cases h
  | _ => simp [name]

/-- No report says that an evaluation failed. -/
theorem validate_errorKind (source : String) :
    (validate source).toJson.get? "error_kind" ≠ some (.str "evaluation") := by
  rw [Report.get?_errorKind]
  unfold validate
  dsimp only
  cases hc : compile source with
  | ok c => exact nofun
  | error err =>
      intro heq
      have hname : err.cause.name = "evaluation" :=
        Json.str.inj (Option.some.inj heq)
      exact Cause.name_of_isCompileTime (compile_error_cause hc).2 hname

end Condition

end HookRules
