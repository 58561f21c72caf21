/-
What evaluating a condition can meet.

`EvalError.Expected` lists the failures that a condition can have because of the
values that it comes upon: operands of types that an operator does not take,
patterns that are none, calls with a wrong number of arguments. A function that
is not in the catalog is not among them. A compiled tree calls none
(`compile_ok_iff`), so its evaluation has no other failure (`eval_error`), and
since every field is a key of every context (`Context.view_field`), the paths of
a compiled tree start at values that are there.
-/
import HookRules.Proofs.Condition.Compilation

namespace HookRules

-- =================================================================== contexts

/-- Every context has a value for every field, whatever the event and the
snapshots. -/
theorem Context.view_field (c : Context) (timestamp : String) {name : String}
    (h : name ∈ fieldNames) :
    ∃ v, Fields.get? (c.view timestamp) name = some v := by
  rw [← c.entries_keys timestamp] at h
  unfold view
  rw [Fields.get?_ofList]
  exact Fields.last?_of_mem h

namespace Condition

-- ========================================================== expected failures

/-- A failure that the values of a condition can cause. -/
def EvalError.Expected : EvalError → Prop
  | .negate kind => kind ≠ .number
  | .order left right =>
      ¬ (left = .number ∧ right = .number)
        ∧ ¬ (left = .string ∧ right = .string)
  | .textNeedle left => left ≠ .string
  | .container right => right = .bool ∨ right = .number
  | .searchPattern right => right ≠ .string
  | .globPattern right => right ≠ .string
  | .badRegex pattern fault => Regex.ofText pattern = .error fault
  | .badGlob pattern fault => Glob.ofText pattern = .error fault
  | .call (.unknown _) => False
  | .call (.arity f got) => got < f.minArgs ∨ f.maxArgs < got

-- ================================================================== operators

section Operators

variable {left right : Json} {err : EvalError}

/-- Two values are put in order, or one of them is of a type that has none or
not that of the other. -/
theorem ordered_error {accept : Ordering → Bool}
    (h : ordered left right accept = .error err) : err.Expected := by
  unfold ordered at h
  split at h
  · cases h
  · next hnone =>
      cases h
      constructor
      · rintro ⟨hl, hr⟩
        obtain ⟨m, rfl⟩ := kindOf_eq_number hl
        obtain ⟨n, rfl⟩ := kindOf_eq_number hr
        cases hnone
      · rintro ⟨hl, hr⟩
        obtain ⟨s, rfl⟩ := kindOf_eq_string hl
        obtain ⟨t, rfl⟩ := kindOf_eq_string hr
        cases hnone

/-- Membership fails for a container that holds nothing, or for something other
than a text looked for in a text. -/
theorem member_error (h : member left right = .error err) : err.Expected := by
  cases right with
  | bool b =>
      cases h
      exact Or.inl rfl
  | num n =>
      cases h
      exact Or.inr rfl
  | str s =>
      unfold member at h
      dsimp only at h
      split at h
      · cases h
      · next hneedle =>
          cases h
          intro hkind
          obtain ⟨t, rfl⟩ := kindOf_eq_string hkind
          exact hneedle t rfl
  | obj fs =>
      unfold member at h
      dsimp only at h
      split at h
      · cases h
      · cases h
  | null | arr _ => cases h

/-- A search fails for a pattern that is no text or no regular expression. -/
theorem searches_error (h : searches left right = .error err) :
    err.Expected := by
  unfold searches at h
  split at h
  · split at h
    · split at h
      · cases h
      · next hregex =>
          cases h
          exact hregex
    · cases h
  · next hpattern =>
      cases h
      intro hkind
      obtain ⟨p, rfl⟩ := kindOf_eq_string hkind
      exact hpattern p rfl

/-- A glob match fails for a pattern that is no text or no glob. -/
theorem globMatches_error (h : globMatches left right = .error err) :
    err.Expected := by
  unfold globMatches at h
  split at h
  · split at h
    · split at h
      · cases h
      · next hglob =>
          cases h
          exact hglob
    · cases h
  · next hpattern =>
      cases h
      intro hkind
      obtain ⟨p, rfl⟩ := kindOf_eq_string hkind
      exact hpattern p rfl

/-- What is done to a value does not touch a failure. -/
theorem error_of_map {α β : Type} {x : Except EvalError α} {f : α → β}
    (h : x.map f = .error err) : x = .error err := by
  cases x with
  | ok a => cases h
  | error e =>
      cases h
      rfl

/-- Every operator fails in one of the ways above. Equality and inequality do
not fail at all. -/
theorem Operator.apply_error {op : Operator}
    (h : op.apply left right = .error err) : err.Expected := by
  cases op with
  | eq | ne => cases h
  | lt | le | gt | ge => exact ordered_error h
  | mem => exact member_error h
  | notMem => exact member_error (error_of_map h)
  | search => exact searches_error h
  | glob => exact globMatches_error h

end Operators

-- ================================================================= evaluation

/-- A call of a function of the catalog fails for its number of arguments. -/
theorem call_error {r : Registry} {name : String} {args : List Json}
    {cause : CallError} (hname : (Symbol.function name).Known)
    (h : r.call name args = .error cause) :
    (EvalError.call cause).Expected := by
  obtain ⟨f, -, rfl⟩ := List.mem_map.mp hname
  rw [Registry.call_name] at h
  split at h
  · cases h
  · next hcount =>
      cases h
      show args.length < f.minArgs ∨ f.maxArgs < args.length
      omega

section Trees

variable {r : Registry} {ctx : Fields} {err : EvalError}

mutual

/-- The evaluation of a tree whose names are known has only expected
failures. -/
theorem eval_error {e : Expr} (hknown : ∀ s ∈ e.symbols, s.Known)
    (h : eval r ctx e = .error err) : err.Expected := by
  cases e with
  | literal v => cases h
  | path root steps => cases h
  | list items =>
      rw [eval] at h
      exact evalList_error hknown (error_of_map h)
  | call name args =>
      obtain ⟨hname, hargs⟩ := List.forall_mem_cons.mp hknown
      rw [eval] at h
      rcases Parser.error_of_bind h with h | ⟨vs, -, h⟩
      · exact evalList_error hargs h
      · cases hcall : r.call name vs with
        | ok v =>
            rw [hcall] at h
            cases h
        | error cause =>
            rw [hcall] at h
            cases h
            exact call_error hname hcall
  | not e =>
      have hinner : ∀ s ∈ e.symbols, s.Known := hknown
      rw [eval] at h
      exact eval_error hinner (error_of_map h)
  | neg e =>
      have hinner : ∀ s ∈ e.symbols, s.Known := hknown
      rw [eval] at h
      rcases Parser.error_of_bind h with h | ⟨v, -, h⟩
      · exact eval_error hinner h
      · split at h
        · cases h
        · next hnumber =>
            cases h
            intro hkind
            obtain ⟨n, rfl⟩ := kindOf_eq_number hkind
            exact hnumber n rfl
  | and lhs rhs =>
      obtain ⟨hlhs, hrhs⟩ := List.forall_mem_append.mp hknown
      rw [eval] at h
      rcases Parser.error_of_bind h with h | ⟨v, -, h⟩
      · exact eval_error hlhs h
      · split at h
        · exact eval_error hrhs (error_of_map h)
        · cases h
  | or lhs rhs =>
      obtain ⟨hlhs, hrhs⟩ := List.forall_mem_append.mp hknown
      rw [eval] at h
      rcases Parser.error_of_bind h with h | ⟨v, -, h⟩
      · exact eval_error hlhs h
      · split at h
        · cases h
        · exact eval_error hrhs (error_of_map h)
  | compare op lhs rhs =>
      obtain ⟨hlhs, hrhs⟩ := List.forall_mem_append.mp hknown
      rw [eval] at h
      rcases Parser.error_of_bind h with h | ⟨v, -, h⟩
      · exact eval_error hlhs h
      · rcases Parser.error_of_bind h with h | ⟨w, -, h⟩
        · exact eval_error hrhs h
        · exact Operator.apply_error (error_of_map h)

/-- Of a list the first item that fails is the failure of all, and it is
expected if every name in the list is known. -/
theorem evalList_error {es : List Expr}
    (hknown : ∀ s ∈ Expr.symbolsOf es, s.Known)
    (h : evalList r ctx es = .error err) : err.Expected := by
  cases es with
  | nil => cases h
  | cons e es =>
      obtain ⟨he, hes⟩ := List.forall_mem_append.mp hknown
      rw [evalList] at h
      rcases Parser.error_of_bind h with h | ⟨v, -, h⟩
      · exact eval_error he h
      · exact evalList_error hes (error_of_map h)

end

end Trees

-- ======================================================== compiled conditions

/-- What was compiled keeps its text, and the names of its tree are known. -/
theorem compiled_known {source : String} {c : Condition}
    (h : compile source = .ok c) :
    c.source = source ∧ ∀ e, c.program = some e → ∀ s ∈ e.symbols, s.Known := by
  rcases compile_cases source with ⟨-, hc⟩ | ⟨-, f, -, hc⟩
    | ⟨-, e, -, hknown, hc⟩ | ⟨-, e, before, s, after, -, -, -, -, hc⟩
  · rw [h] at hc
    cases hc
    exact ⟨rfl, nofun⟩
  · rw [h] at hc
    cases hc
  · rw [h] at hc
    cases hc
    refine ⟨rfl, fun e' he' => ?_⟩
    cases he'
    exact hknown
  · rw [h] at hc
    cases hc

/-- A compiled condition fails only for its values. -/
theorem holds_error {source : String} {c : Condition} {r : Registry}
    {ctx : Fields} {err : ConditionError} (hc : compile source = .ok c)
    (h : c.holds r ctx = .error err) :
    ∃ cause, err = ⟨source, .evaluation cause⟩ ∧ cause.Expected := by
  obtain ⟨hsource, hknown⟩ := compiled_known hc
  unfold holds at h
  split at h
  · cases h
  · next e he =>
      split at h
      · cases h
      · next cause heval =>
          cases h
          rw [hsource]
          exact ⟨cause, rfl, eval_error (hknown e he) heval⟩

/-- Every name that a condition uses is settled when it is compiled.

A condition is compiled exactly if it is blank, or if it can be read, the root
of each of its paths is a context field and each function that it calls is in
the catalog. The names of a condition that can be read stand in its text in the
order of its tree, and if it is not compiled, the error is about the unknown one
that stands leftmost. The check of a condition by itself accepts what is
compiled, and its report never has the kind of a failed evaluation.

In every context the paths of a compiled condition start at keys of the context,
and whatever the registry, it fails only for operands of wrong types, patterns
that are none and wrong numbers of arguments. -/
theorem names_settled_by_compile (source : String) :
    ((∃ c, compile source = .ok c)
      ↔ Text.isBlankText source = true
        ∨ ∃ e, parse source = .ok e
          ∧ (∀ root steps, .path root steps ∈ e.parts →
            root ∈ Context.fieldNames)
          ∧ (∀ name args, .call name args ∈ e.parts →
            name ∈ Builtin.all.map Builtin.name))
    ∧ (∀ e, parse source = .ok e →
        (∃ ts, tokenize source = .ok ts
          ∧ (named ts).map (·.1) = e.parts.filterMap Expr.ownSymbol?
          ∧ (named ts).Pairwise fun s t => s.2 < t.2)
        ∧ ((¬ ∃ c, compile source = .ok c) →
          ∃ s place, Leftmost source s place
            ∧ compile source = .error ⟨source, s.fault⟩))
    ∧ ((validate source).isValid = true ↔ ∃ c, compile source = .ok c)
    ∧ (validate source).toJson.get? "error_kind" ≠ some (.str "evaluation")
    ∧ ∀ c, compile source = .ok c → ∀ (r : Registry) (context : Context)
        (timestamp : String),
        (∀ e, c.program = some e → ∀ root steps, .path root steps ∈ e.parts →
          ∃ v, Fields.get? (context.view timestamp) root = some v)
        ∧ ∀ err, c.holds r (context.view timestamp) = .error err →
          ∃ cause, err = ⟨source, .evaluation cause⟩ ∧ cause.Expected := by
  refine ⟨?_, ?_, validate_isValid_iff source, validate_errorKind source, ?_⟩
  · rw [compile_ok_iff]
    refine or_congr_right (exists_congr fun e => and_congr_right fun _ => ?_)
    exact Expr.symbols_known_iff e
  · intro e hparse
    obtain ⟨ts, hts, hnames⟩ := symbols_of_parse hparse
    refine ⟨⟨ts, hts, ?_, named_ascending hts⟩, compile_leftmost hparse⟩
    rw [hnames, Expr.symbols_eq]
  · intro c hc r context timestamp
    refine ⟨?_, fun err => holds_error hc⟩
    intro e he root steps hpath
    have hroot : (Symbol.variable root).Known :=
      (compiled_known hc).2 e he _
        (Expr.variable_mem_symbols.mpr ⟨steps, hpath⟩)
    exact context.view_field timestamp hroot

/-- Of two unknown names the first is reported. A text has no order with
null. -/
theorem names_settled_in_two_conditions :
    let unknown := "nope or gone()"
    let ordering := "cwd < null"
    let c : Condition := ⟨ordering,
      some (.compare .lt (.path "cwd" []) (.literal .null))⟩
    let r : Registry := { host := ⟨.empty, none, "/"⟩, cwd := "/" }
    let context := Context.ofEvent "/" ⟨{ sessionId := "s" }, .preToolUse
      ⟨"Bash", .obj [], none⟩⟩
    (∃ place, Leftmost unknown (.variable "nope") place
      ∧ compile unknown = .error ⟨unknown, .unknownVariable "nope"⟩)
    ∧ compile ordering = .ok c
    ∧ (∃ v, Fields.get? (context.view "") "cwd" = some v)
    ∧ c.holds r (context.view "")
        = .error ⟨ordering, .evaluation (.order .string .null)⟩
    ∧ (EvalError.order .string .null).Expected := by
  intro unknown ordering c r context
  have hparse : parse unknown
      = .ok (.or (.path "nope" []) (.call "gone" [])) := by
    have htokens : tokenize unknown = .ok [⟨.word "nope", 0⟩, ⟨.word "or", 5⟩,
        ⟨.word "gone", 8⟩, ⟨.openParen, 12⟩, ⟨.closeParen, 13⟩] := by
      cbv
    unfold parse
    rw [htokens]
    rfl
  have hrefused : compile unknown
      = .error ⟨unknown, .unknownVariable "nope"⟩ := by
    unfold compile
    rw [if_neg (by decide), hparse]
    rfl
  have hcompiled : compile ordering = .ok c := by
    have htokens : tokenize ordering
        = .ok [⟨.word "cwd", 0⟩, ⟨.lt, 4⟩, ⟨.word "null", 6⟩] := by
      cbv
    have hordering : parse ordering
        = .ok (.compare .lt (.path "cwd" []) (.literal .null)) := by
      unfold parse
      rw [htokens]
      rfl
    unfold compile
    rw [if_neg (by decide), hordering]
    rfl
  have hfails : c.holds r (context.view "")
      = .error ⟨ordering, .evaluation (.order .string .null)⟩ := by
    cbv
  have hnone : ¬ ∃ c, compile unknown = .ok c := by
    rintro ⟨c, hc⟩
    rw [hrefused] at hc
    cases hc
  obtain ⟨s, place, hplace, hs⟩ :=
    ((names_settled_by_compile unknown).2.1 _ hparse).2 hnone
  obtain ⟨hpaths, hfailures⟩ :=
    (names_settled_by_compile ordering).2.2.2.2 c hcompiled r context ""
  refine ⟨⟨place, ?_, hrefused⟩, hcompiled, ?_, hfails, ?_⟩
  · rw [hrefused] at hs
    cases s with
    | «variable» name =>
        cases hs
        exact hplace
    | function name => cases hs
  · exact hpaths _ rfl "cwd" [] (by simp [Expr.parts])
  · obtain ⟨cause, heq, hexpected⟩ := hfailures _ hfails
    cases heq
    exact hexpected

end Condition

end HookRules
