/-
What calls of the catalog come to, whatever they are answered from.

A call fails by its name or by the number of its arguments and by nothing else:
there is an answer whether there is a snapshot, a store or a variable or not. A
function either decides something and answers with a truth value, or it gives a
value (`Builtin.accessors`), which is null or a truth value, a number or a text.

Every parameter is a text. An argument of any other form makes a function answer
with its fallback, as if it had found nothing (`answer_of_wrong_argument`). The
one argument with a meaning of its own is a null in the place of a pattern that
may be left out: it leaves the pattern out.
-/
import HookRules.Proofs.Session.Isolation

namespace HookRules

namespace Builtin

/-- The functions that give a value. All others are predicates. -/
def accessors : List Builtin :=
  [.env, .currentBranch, .sessionGet, .projectGet, .lower]

/-- The functions with a pattern that may be left out. -/
def patterned : List Builtin :=
  [.gitHasStaged, .gitHasModified, .gitHasUntracked, .gitHasConflicts]

/-- What a function answers when it finds nothing. -/
def fallback (f : Builtin) : Json :=
  if f ∈ accessors then .null else .bool false

/-- The pattern of a function is what may be left out. -/
theorem minArgs_of_patterned {f : Builtin} (hf : f ∈ patterned) :
    f.minArgs = 0 := by
  cases f with
  | gitHasStaged | gitHasModified | gitHasUntracked | gitHasConflicts => rfl
  | _ => exact absurd hf (by decide)

end Builtin

namespace Registry

open Builtin (accessors patterned)

variable {r : Registry} {f : Builtin} {args : List Json}

-- ==================================================================== failures

/-- A call that has an answer has the right number of arguments. -/
theorem call_name_ok {v : Json} (h : r.call f.name args = .ok v) :
    (f.minArgs ≤ args.length ∧ args.length ≤ f.maxArgs)
      ∧ r.answer f args = v := by
  rw [call_name] at h
  split at h
  · next htakes => exact ⟨htakes, Except.ok.inj h⟩
  · cases h

/-- A call fails by its name or by the number of its arguments. -/
theorem call_error_iff (r : Registry) (name : String) (args : List Json) :
    (∃ error, r.call name args = .error error)
      ↔ name ∉ Builtin.all.map Builtin.name
        ∨ ∃ f : Builtin, f.name = name
          ∧ (args.length < f.minArgs ∨ f.maxArgs < args.length) := by
  by_cases hname : name ∈ Builtin.all.map Builtin.name
  · obtain ⟨f, -, rfl⟩ := List.mem_map.mp hname
    have hsame : ∀ g : Builtin, g.name = f.name → g = f := fun g heq =>
      Option.some.inj (by
        rw [← Builtin.ofName?_name g, heq, Builtin.ofName?_name])
    constructor
    · rintro ⟨error, herror⟩
      refine Or.inr ⟨f, rfl, ?_⟩
      rw [call_name] at herror
      split at herror
      · cases herror
      · omega
    · rintro (hunknown | ⟨g, hg, hrange⟩)
      · exact absurd hname hunknown
      · rw [hsame g hg] at hrange
        refine ⟨_, (r.call_name f args).trans (if_neg ?_)⟩
        omega
  · exact ⟨fun _ => Or.inl hname, fun _ => ⟨_, call_unknown hname r args⟩⟩

-- ============================================================ kinds of answers

/-- A test of two texts answers with a truth value for whatever it is given. -/
theorem test₂_isBool (p : String → String → Bool) (args : List Json) :
    ∃ b, test₂ p args = .bool b := by
  unfold test₂
  split
  · exact ⟨_, rfl⟩
  · exact ⟨_, rfl⟩

/-- Predicates answer with a truth value. -/
theorem answer_predicate (r : Registry) (args : List Json)
    (hf : f ∉ accessors) : ∃ b, r.answer f args = .bool b := by
  cases f with
  | env | currentBranch | sessionGet | projectGet | lower =>
      exact absurd (by decide) hf
  | isPathUnder | matchesGlob | gitFileIn | regexMatch =>
      exact test₂_isBool _ args
  | _ => exact ⟨_, rfl⟩

/-- A text that may be missing is a text or null. -/
theorem ofOption_scalar (s : Option String) :
    Json.ofOption s = .null ∨ (Json.ofOption s).IsScalar := by
  cases s with
  | none => exact Or.inl rfl
  | some s => exact Or.inr (.str s)

/-- An entry of a store is shown as a truth value, a number or a text, or as
null. -/
theorem scalarOf_scalar (entry : Except StoreFault (Option Json)) :
    Stores.scalarOf entry = .null ∨ (Stores.scalarOf entry).IsScalar := by
  rcases Stores.scalarOf_cases entry with ⟨hnull, -⟩ | ⟨v, hv, -, heq⟩
  · exact Or.inl hnull
  · rw [heq]
    exact Or.inr hv

/-- A value computed from a text is null for everything else. -/
theorem value_scalar {g : String → Json}
    (hg : ∀ s, g s = .null ∨ (g s).IsScalar) (arg : Option Json) :
    value g arg = .null ∨ (value g arg).IsScalar := by
  unfold value
  split
  · exact hg _
  · exact Or.inl rfl

/-- Accessors answer with null, a truth value, a number or a text. -/
theorem answer_accessor (r : Registry) (args : List Json)
    (hf : f ∈ accessors) :
    r.answer f args = .null ∨ (r.answer f args).IsScalar := by
  cases f with
  | env => exact value_scalar (fun name => ofOption_scalar (r.env name)) _
  | currentBranch => exact ofOption_scalar _
  | sessionGet =>
      refine value_scalar (fun key => ?_) _
      rw [Stores.sessionValue_eq]
      exact scalarOf_scalar _
  | projectGet =>
      refine value_scalar (fun key => ?_) _
      rw [Stores.projectValue_eq]
      exact scalarOf_scalar _
  | lower => exact value_scalar (fun s => Or.inr (.str (Text.lower s))) _
  | _ => exact absurd hf (by decide)

-- ============================================================= wrong arguments

variable {arg : Json}

/-- A test of something that is no text answers false, and does not fail. -/
theorem test_of_wrong (p : String → Bool) (h : ∀ s, arg ≠ .str s) :
    test p (some arg) = .bool false := by
  cases arg with
  | str s => exact absurd rfl (h s)
  | _ => rfl

/-- A value is not looked for under something that is no text. -/
theorem value_of_wrong (g : String → Json) (h : ∀ s, arg ≠ .str s) :
    value g (some arg) = .null := by
  cases arg with
  | str s => exact absurd rfl (h s)
  | _ => rfl

/-- A predicate of two texts is false if one of its arguments is none. -/
theorem test₂_of_wrong (p : String → String → Bool) (harg : arg ∈ args)
    (h : ∀ s, arg ≠ .str s) : test₂ p args = .bool false := by
  unfold test₂
  split
  · next a b =>
      rcases List.mem_pair.mp harg with rfl | rfl
      · exact absurd rfl (h a)
      · exact absurd rfl (h b)
  · rfl

/-- A pattern that is no text fits no entry. Null is the exception, since it
counts as no pattern at all. -/
theorem hasEntry_of_wrong (r : Registry) (set : GitFileSet)
    (h : ∀ s, arg ≠ .str s) (hnull : arg ≠ .null) :
    r.hasEntry set (some arg) = false := by
  unfold hasEntry
  cases r.git with
  | none => rfl
  | some g =>
      cases arg with
      | str s => exact absurd rfl (h s)
      | null => exact absurd rfl hnull
      | _ => rfl

/-- A function that takes one argument at most and is given one has no others. -/
theorem eq_singleton_of_one (hmem : arg ∈ args) (hlen : args.length ≤ 1) :
    args = [arg] := by
  cases args with
  | nil => cases hmem
  | cons v rest =>
      obtain rfl : rest = [] :=
        List.length_eq_zero_iff.mp (Nat.le_zero.mp (Nat.le_of_succ_le_succ hlen))
      rw [List.mem_singleton.mp hmem]

/-- An argument that is no text makes a function answer with its fallback; a null
does so only where it does not stand for a pattern that is left out. -/
theorem answer_of_wrong_argument (r : Registry)
    (htakes : args.length ≤ f.maxArgs) (hmem : arg ∈ args)
    (h : ∀ s, arg ≠ .str s) (hnull : f ∈ patterned → arg ≠ .null) :
    r.answer f args = f.fallback := by
  cases f with
  | isGitRepo | hasConflicts | currentBranch =>
      obtain rfl : args = [] := List.length_eq_zero_iff.mp (Nat.le_zero.mp htakes)
      cases hmem
  | isPathUnder | matchesGlob | gitFileIn | regexMatch =>
      exact test₂_of_wrong _ hmem h
  | fileExists | isExecutable | isDir | isStaged | isModified =>
      obtain rfl : args = [arg] := eq_singleton_of_one hmem htakes
      exact test_of_wrong _ h
  | env | sessionGet | projectGet | lower =>
      obtain rfl : args = [arg] := eq_singleton_of_one hmem htakes
      exact value_of_wrong _ h
  | gitHasStaged | gitHasModified | gitHasUntracked | gitHasConflicts =>
      obtain rfl : args = [arg] := eq_singleton_of_one hmem htakes
      exact congrArg Json.bool
        (r.hasEntry_of_wrong _ h (hnull (by decide)))

/-- A null in the place of a pattern leaves the pattern out. -/
theorem answer_of_null_pattern (r : Registry) (hf : f ∈ patterned) :
    r.answer f [.null] = r.answer f [] := by
  cases f with
  | gitHasStaged | gitHasModified | gitHasUntracked | gitHasConflicts => rfl
  | _ => exact absurd hf (by decide)

-- ================================================================= every call

/-- A call fails exactly if its name is not in the catalog or the number of its
arguments is out of the range of the function. Otherwise a predicate answers with
a truth value and an accessor with null, a truth value, a number or a text. An
argument that is no text gives false, or null; a null pattern is as good as
none. -/
theorem call_fails_by_name_or_number (r : Registry) (name : String)
    (args : List Json) :
    ((∃ error, r.call name args = .error error)
        ↔ name ∉ Builtin.all.map Builtin.name
          ∨ ∃ f : Builtin, f.name = name
            ∧ (args.length < f.minArgs ∨ f.maxArgs < args.length))
      ∧ ∀ (f : Builtin) (v : Json), f.name = name →
        r.call name args = .ok v →
          (f ∉ accessors → ∃ b, v = .bool b)
            ∧ (f ∈ accessors → v = .null ∨ v.IsScalar)
            ∧ (∀ arg ∈ args, (∀ s, arg ≠ .str s) →
              (f ∈ patterned → arg ≠ .null) →
                v = if f ∈ accessors then .null else .bool false)
            ∧ (f ∈ patterned → args = [.null] → r.call name [] = .ok v) := by
  refine ⟨call_error_iff r name args, ?_⟩
  rintro f v rfl hcall
  obtain ⟨htakes, rfl⟩ := call_name_ok hcall
  refine ⟨answer_predicate r args, answer_accessor r args, ?_, ?_⟩
  · intro arg hmem hwrong hnull
    exact answer_of_wrong_argument r htakes.2 hmem hwrong hnull
  · rintro hf rfl
    rw [answer_of_null_pattern r hf, call_name]
    exact if_pos ⟨(Builtin.minArgs_of_patterned hf).le, Nat.zero_le _⟩

/-- With one staged file and a store that fails: a null pattern finds the file as
no pattern does, a number finds nothing, and nothing can be looked up by a list
or in the store. -/
theorem calls_of_wrong_arguments :
    let r : Registry :=
      { host := ⟨.empty, none, "/"⟩, cwd := "/"
        git := some { staged := ["a.rs"] }
        stores := { session := some fun _ _ => .error .unavailable } }
    r.call "git_has_staged" [.null] = .ok (.bool true)
      ∧ r.call "git_has_staged" [] = .ok (.bool true)
      ∧ r.call "git_has_staged" [.ofInt 7] = .ok (.bool false)
      ∧ r.call "session_get" [.arr [.str "mode"]] = .ok .null
      ∧ (∃ v, r.call "session_get" [.str "mode"] = .ok v
        ∧ (v = .null ∨ v.IsScalar))
      ∧ ∃ error, r.call "is_path_under" [.str "a"] = .error error := by
  intro r
  have hall : r.call "git_has_staged" [.null] = .ok (.bool true) := rfl
  have hwrong (name : String) (f : Builtin) (arg : Json) (hname : f.name = name)
      (harg : ∀ s, arg ≠ .str s) (hnull : arg ≠ .null) (v : Json)
      (hcall : r.call name [arg] = .ok v) :
      v = if f ∈ accessors then .null else .bool false :=
    ((call_fails_by_name_or_number r name [arg]).2 f v hname hcall).2.2.1 arg
      (List.mem_singleton_self arg) harg fun _ => hnull
  refine ⟨hall, ?_, ?_, ?_, ?_, ?_⟩
  · exact ((call_fails_by_name_or_number r "git_has_staged" [.null]).2
      .gitHasStaged (.bool true) rfl hall).2.2.2 (by decide) rfl
  · exact congrArg Except.ok
      (hwrong "git_has_staged" .gitHasStaged (.ofInt 7) rfl nofun nofun _ rfl)
  · exact congrArg Except.ok
      (hwrong "session_get" .sessionGet (.arr [.str "mode"]) rfl nofun nofun _ rfl)
  · exact ⟨_, rfl, ((call_fails_by_name_or_number r "session_get"
      [.str "mode"]).2 .sessionGet _ rfl rfl).2.1 (by decide)⟩
  · exact (call_fails_by_name_or_number r "is_path_under" [.str "a"]).1.mpr
      (Or.inr ⟨.isPathUnder, rfl, by decide⟩)

end Registry

end HookRules
