/-
What names hold after registrations.

# Two views of a registry

A registry is known by what it holds under each name (`held?`) and by the modules
that it has (`hasModule`); a lookup is told by these two alone
(`resolve_of_spells`). That they are kept in two levels of tables shows in the one
place where a name is set (`withName`): the name that the text spells holds the new
symbol, its module is there, and nothing else is different.

# Over a history

A refused registration leaves the registry as it is, so a history is known by the
registrations that spell a name. By induction over it, a name holds what the last
of its registrations gave it (`held?_registerAll`), a module is there if a
name of it was registered (`hasModule_registerAll`), and there is nothing at all if
all registrations were refused (`isEmpty_registerAll`).
-/
import HookRules.Proofs.Automation.Names

namespace HookRules

open EntrypointName

/-- A text and what is to be registered under the name that it spells. -/
structure Registration where
  name : String
  symbol : EntrypointSymbol

namespace Entrypoints

/-- Registers in turn, whether or not each of the names can be registered, and
tells of each what was wrong with it. -/
def registerAll (e : Entrypoints) :
    List Registration → Entrypoints × List (Option ActionFault)
  | [] => (e, [])
  | r :: rest =>
    match e.register r.name r.symbol with
    | .ok e' =>
      let later := registerAll e' rest
      (later.1, none :: later.2)
    | .error fault =>
      let later := registerAll e rest
      (later.1, some fault :: later.2)

/-- What the last of some registrations gives a text, blanks around names left
out. -/
def lastNamed? (rs : List Registration) (name : String) :
    Option EntrypointSymbol :=
  (rs.reverse.find? fun r => Text.trim r.name = Text.trim name).map (·.symbol)

/-- The first registration of a history counts only if none of the others has
its name, blanks around it aside. -/
theorem lastNamed?_cons (r : Registration) (rs : List Registration)
    (name : String) :
    lastNamed? (r :: rs) name
      = (lastNamed? rs name).or
        (if Text.trim r.name = Text.trim name then some r.symbol else none) := by
  unfold lastNamed?
  rw [List.reverse_cons, List.find?_append, Option.map_or, List.find?_singleton]
  congr 1
  by_cases h : Text.trim r.name = Text.trim name
  · simp [h]
  · simp [h]

-- ================================================================== two views

/-- What a registry holds under a name. -/
def held? (e : Entrypoints) (n : EntrypointName) : Option EntrypointSymbol :=
  (e.modules.get? n.module).bind fun functions => functions.get? n.function

/-- Whether a registry has a module. -/
def hasModule (e : Entrypoints) (module : String) : Bool :=
  (e.modules.get? module).isSome

variable {e : Entrypoints} {text : String} {n : EntrypointName}

/-- A text that spells no name is refused before anything is looked up, with
the text as it was given. -/
theorem resolve_of_not_spells (h : ∀ n, ¬ Spells text n) :
    e.resolve text = .error (.invalidEntrypoint text) := by
  unfold resolve
  rw [(ofText?_eq_none_iff text).mpr h]

/-- A lookup of a name is told by what is held under it and by its module. -/
theorem resolve_of_spells (h : Spells text n) :
    e.resolve text
      = match e.held? n with
        | some (.callable f) => .ok f
        | some (.value _) => .error (.notCallable text)
        | none =>
          if e.hasModule n.module then
            .error (.symbolNotFound n.module n.function)
          else .error (.moduleNotFound n.module) := by
  unfold resolve held? hasModule
  rw [(ofText?_eq_some_iff text n).mpr h]
  dsimp only
  cases e.modules.get? n.module with
  | none => rfl
  | some functions =>
      dsimp only [Option.bind_some]
      cases functions.get? n.function with
      | none => rfl
      | some symbol => cases symbol <;> rfl

-- ============================================================= one registration

/-- A registry in which a name holds a symbol. -/
def withName (e : Entrypoints) (n : EntrypointName) (s : EntrypointSymbol) :
    Entrypoints :=
  ⟨e.modules.set n.module (((e.modules.get? n.module).getD []).set n.function s)⟩

/-- It is not registered either, for the same reason. -/
theorem register_of_not_spells (h : ∀ n, ¬ Spells text n)
    (s : EntrypointSymbol) :
    e.register text s = .error (.invalidEntrypoint text) := by
  unfold register
  rw [(ofText?_eq_none_iff text).mpr h]

/-- A name in whatever spelling is registered under its two parts. -/
theorem register_of_spells (h : Spells text n) (s : EntrypointSymbol) :
    e.register text s = .ok (e.withName n s) := by
  unfold register
  rw [(ofText?_eq_some_iff text n).mpr h]
  rfl

/-- A name that is registered holds what it was registered with; every other
name holds what it did, in the same module or another. -/
theorem held?_withName (e : Entrypoints) (n : EntrypointName)
    (s : EntrypointSymbol) (m : EntrypointName) :
    (e.withName n s).held? m = if m = n then some s else e.held? m := by
  have hsame : m = n ↔ m.module = n.module ∧ m.function = n.function := by
    cases m
    cases n
    exact Iff.of_eq (EntrypointName.mk.injEq ..)
  simp only [hsame]
  exact Table.get?_bind_set e.modules n.module n.function s m.module m.function

/-- A module is there once a name of it was registered, and it does not go
away. -/
theorem hasModule_withName (e : Entrypoints) (n : EntrypointName)
    (s : EntrypointSymbol) (module : String) :
    (e.withName n s).hasModule module = true
      ↔ module = n.module ∨ e.hasModule module = true := by
  unfold hasModule withName
  rw [Table.get?_set]
  by_cases h : module = n.module
  · simp [h]
  · rw [if_neg h, or_iff_right h]

/-- After a registration there is something. -/
theorem isEmpty_withName (e : Entrypoints) (n : EntrypointName)
    (s : EntrypointSymbol) : (e.withName n s).isEmpty = false :=
  List.isEmpty_eq_false_iff.mpr (Table.set_ne_nil _ _ _)

-- ================================================================== histories

variable {r : Registration} {rs : List Registration}

/-- A registration that is refused changes nothing for those after it. -/
theorem registerAll_cons_of_not_spells (h : ∀ n, ¬ Spells r.name n) :
    e.registerAll (r :: rs)
      = ((e.registerAll rs).1,
        some (.invalidEntrypoint r.name) :: (e.registerAll rs).2) := by
  rw [registerAll, register_of_not_spells h]

/-- One that is accepted is in front of all others in time, so these may
replace it. -/
theorem registerAll_cons_of_spells (h : Spells r.name n) :
    e.registerAll (r :: rs)
      = (((e.withName n r.symbol).registerAll rs).1,
        none :: ((e.withName n r.symbol).registerAll rs).2) := by
  rw [registerAll, register_of_spells h]

/-- A text spells no name, or there is one that it spells. -/
theorem spells_cases (text : String) :
    (∀ n, ¬ Spells text n) ∨ ∃ n, Spells text n :=
  (em (∃ n, Spells text n)).symm.imp_left not_exists.mp

/-- A registration is refused exactly if its text spells no name, and for its
text. -/
theorem registerAll_faults (e : Entrypoints) (rs : List Registration) :
    List.Forall₂ (fun r fault =>
      (fault = none ∧ ∃ n, Spells r.name n)
        ∨ (fault = some (.invalidEntrypoint r.name) ∧ ∀ n, ¬ Spells r.name n))
      rs (e.registerAll rs).2 := by
  induction rs generalizing e with
  | nil => exact List.Forall₂.nil
  | cons r rs ih =>
      rcases spells_cases r.name with h | ⟨n, h⟩
      · rw [registerAll_cons_of_not_spells h]
        exact List.Forall₂.cons (Or.inr ⟨rfl, h⟩) (ih e)
      · rw [registerAll_cons_of_spells h]
        exact List.Forall₂.cons (Or.inl ⟨rfl, n, h⟩) (ih _)

/-- A refused registration changes nothing. -/
theorem registerAll_snoc_of_not_spells (h : ∀ n, ¬ Spells r.name n) :
    (e.registerAll (rs ++ [r])).1 = (e.registerAll rs).1 := by
  induction rs generalizing e with
  | nil => rw [List.nil_append, registerAll_cons_of_not_spells h]
  | cons first rs ih =>
      rw [List.cons_append]
      rcases spells_cases first.name with hfirst | ⟨n, hfirst⟩
      · rw [registerAll_cons_of_not_spells hfirst,
          registerAll_cons_of_not_spells hfirst]
        exact ih
      · rw [registerAll_cons_of_spells hfirst, registerAll_cons_of_spells hfirst]
        exact ih

/-- A name holds what the last of its registrations gave it. -/
theorem held?_registerAll (e : Entrypoints) (rs : List Registration)
    (h : Spells text n) :
    (e.registerAll rs).1.held? n = (lastNamed? rs text).or (e.held? n) := by
  induction rs generalizing e with
  | nil => rfl
  | cons r rs ih =>
      rw [lastNamed?_cons, Option.or_assoc]
      rcases spells_cases r.name with hr | ⟨m, hr⟩
      · have hother : Text.trim r.name ≠ Text.trim text := fun htrim =>
          hr n (h.iff_trim.mpr htrim)
        rw [registerAll_cons_of_not_spells hr, if_neg hother, Option.none_or]
        exact ih e
      · rw [registerAll_cons_of_spells hr]
        refine (ih (e.withName m r.symbol)).trans (congrArg _ ?_)
        rw [held?_withName]
        by_cases htrim : Text.trim r.name = Text.trim text
        · rw [if_pos htrim, if_pos ((h.iff_trim.mpr htrim).unique hr),
            Option.some_or]
        · have hother : n ≠ m := by
            rintro rfl
            exact htrim (h.iff_trim.mp hr)
          rw [if_neg htrim, if_neg hother, Option.none_or]

/-- A module is there if a name of it was registered. -/
theorem hasModule_registerAll (e : Entrypoints) (rs : List Registration)
    (module : String) :
    (e.registerAll rs).1.hasModule module = true
      ↔ (∃ r ∈ rs, ∃ m, Spells r.name m ∧ m.module = module)
        ∨ e.hasModule module = true := by
  induction rs generalizing e with
  | nil => simp [registerAll]
  | cons r rs ih =>
      simp only [List.mem_cons, exists_eq_or_imp]
      rcases spells_cases r.name with hr | ⟨n, hr⟩
      · have hnone : ¬ ∃ m, Spells r.name m ∧ m.module = module :=
          fun ⟨m, hm, _⟩ => hr m hm
        rw [registerAll_cons_of_not_spells hr, or_iff_right hnone]
        exact ih e
      · have hone : (∃ m, Spells r.name m ∧ m.module = module)
            ↔ module = n.module := by
          constructor
          · rintro ⟨m, hm, rfl⟩
            rw [hm.unique hr]
          · rintro rfl
            exact ⟨n, hr, rfl⟩
        rw [registerAll_cons_of_spells hr, hone]
        refine (ih _).trans ?_
        rw [hasModule_withName, ← or_assoc, or_comm (a := ∃ r ∈ rs, _)]

/-- There is nothing if all registrations were refused. -/
theorem isEmpty_registerAll (e : Entrypoints) (rs : List Registration) :
    (e.registerAll rs).1.isEmpty = true
      ↔ (∀ r ∈ rs, ∀ n, ¬ Spells r.name n) ∧ e.isEmpty = true := by
  induction rs generalizing e with
  | nil => simp [registerAll]
  | cons r rs ih =>
      rw [List.forall_mem_cons]
      rcases spells_cases r.name with hr | ⟨n, hr⟩
      · rw [registerAll_cons_of_not_spells hr, and_iff_right hr]
        exact ih e
      · rw [registerAll_cons_of_spells hr]
        refine (ih _).trans ?_
        rw [isEmpty_withName]
        constructor
        · exact fun h => absurd h.2 Bool.false_ne_true
        · exact fun h => absurd hr (h.1.1 n)

end Entrypoints

/-- The registry after any history of registrations, each of a callable or of a
plain value, under any texts.

A registration is accepted exactly if its text spells a name, blanks around it left
out, and otherwise it changes nothing. A lookup of a text that spells no name fails
for that. A lookup of one that does is told by the last registration under the
same name: a callable is found, a plain value is none. Without one the name is
missing in its module if another name of the module was registered, and otherwise
the module is missing. The registry is empty as long as every registration was
refused. -/
theorem lookups_follow_registrations (rs : List Registration) :
    let done := Entrypoints.registerAll {} rs
    List.Forall₂ (fun r fault =>
        (fault = none ∧ ∃ n, Spells r.name n)
          ∨ (fault = some (.invalidEntrypoint r.name) ∧ ∀ n, ¬ Spells r.name n))
        rs done.2
      ∧ (∀ r : Registration, (∀ n, ¬ Spells r.name n) →
        (Entrypoints.registerAll {} (rs ++ [r])).1 = done.1)
      ∧ (∀ text, (∀ n, ¬ Spells text n) →
        done.1.resolve text = .error (.invalidEntrypoint text))
      ∧ (∀ text n, Spells text n →
        (∀ f, Entrypoints.lastNamed? rs text = some (.callable f) →
            done.1.resolve text = .ok f)
          ∧ (∀ v, Entrypoints.lastNamed? rs text = some (.value v) →
            done.1.resolve text = .error (.notCallable text))
          ∧ (Entrypoints.lastNamed? rs text = none →
            (∃ r ∈ rs, ∃ m, Spells r.name m ∧ m.module = n.module) →
            done.1.resolve text = .error (.symbolNotFound n.module n.function))
          ∧ (Entrypoints.lastNamed? rs text = none →
            (¬ ∃ r ∈ rs, ∃ m, Spells r.name m ∧ m.module = n.module) →
            done.1.resolve text = .error (.moduleNotFound n.module)))
      ∧ (done.1.isEmpty = true ↔ ∀ r ∈ rs, ∀ n, ¬ Spells r.name n) := by
  intro done
  refine ⟨Entrypoints.registerAll_faults {} rs, fun r hr =>
    Entrypoints.registerAll_snoc_of_not_spells hr, fun text h =>
    Entrypoints.resolve_of_not_spells h, ?_, ?_⟩
  · intro text n h
    have hheld : done.1.held? n = Entrypoints.lastNamed? rs text :=
      (Entrypoints.held?_registerAll {} rs h).trans Option.or_none
    have hmodule : done.1.hasModule n.module = true
        ↔ ∃ r ∈ rs, ∃ m, Spells r.name m ∧ m.module = n.module :=
      (Entrypoints.hasModule_registerAll {} rs n.module).trans
        (or_iff_left Bool.false_ne_true)
    rw [Entrypoints.resolve_of_spells h, hheld, ← hmodule]
    refine ⟨?_, ?_, ?_, ?_⟩
    · intro f hlast
      rw [hlast]
    · intro v hlast
      rw [hlast]
    · intro hlast hthere
      rw [hlast]
      exact if_pos hthere
    · intro hlast hthere
      rw [hlast]
      exact if_neg hthere
  · exact (Entrypoints.isEmpty_registerAll {} rs).trans (and_iff_left rfl)

/-- A callable takes the place of a value that was registered with blanks around the
same name, and a refused registration takes no place. -/
theorem lookups_after_three_registrations :
    let f : Json → Call := fun v => ⟨0, .returned v⟩
    let rs : List Registration := [⟨" a.b:run\n", .value .null⟩,
      ⟨"a.b:run", .callable f⟩, ⟨"a-b:run", .value .null⟩]
    let done := (Entrypoints.registerAll {} rs).1
    Spells "a.b:run\t" ⟨"a.b", "run"⟩
      ∧ done.resolve "a.b:run\t" = .ok f
      ∧ done.resolve "a.b:gone" = .error (.symbolNotFound "a.b" "gone")
      ∧ (∀ n, ¬ Spells "a-b:run" n)
      ∧ done.resolve "a-b:run" = .error (.invalidEntrypoint "a-b:run") := by
  intro f rs done
  have hspells (text : String) (n : EntrypointName)
      (h : ofText? text = some n) : Spells text n :=
    (ofText?_eq_some_iff text n).mp h
  have hrun : Spells "a.b:run\t" ⟨"a.b", "run"⟩ := hspells _ _ (by decide +kernel)
  have hgone : Spells "a.b:gone" ⟨"a.b", "gone"⟩ := hspells _ _ (by decide +kernel)
  have hbad : ∀ n, ¬ Spells "a-b:run" n :=
    (ofText?_eq_none_iff _).mp (by decide +kernel)
  have hsame : Text.trim "a.b:run" = Text.trim "a.b:run\t"
      ∧ Text.trim "a-b:run" ≠ Text.trim "a.b:run\t" := by
    decide +kernel
  have hother : Text.trim " a.b:run\n" ≠ Text.trim "a.b:gone"
      ∧ Text.trim "a.b:run" ≠ Text.trim "a.b:gone"
      ∧ Text.trim "a-b:run" ≠ Text.trim "a.b:gone" := by
    decide +kernel
  have hlast : Entrypoints.lastNamed? rs "a.b:run\t" = some (.callable f) := by
    simp only [rs, Entrypoints.lastNamed?_cons, if_pos hsame.1, if_neg hsame.2]
    rfl
  have hnone : Entrypoints.lastNamed? rs "a.b:gone" = none := by
    simp only [rs, Entrypoints.lastNamed?_cons, if_neg hother.1,
      if_neg hother.2.1, if_neg hother.2.2]
    rfl
  obtain ⟨-, -, hinvalid, hlookup, -⟩ := lookups_follow_registrations rs
  refine ⟨hrun, (hlookup _ _ hrun).1 f hlast,
    (hlookup _ _ hgone).2.2.1 hnone ?_, hbad, hinvalid _ hbad⟩
  exact ⟨_, List.mem_cons_of_mem _ (List.mem_cons_self ..), _,
    hspells _ ⟨"a.b", "run"⟩ (by decide +kernel), rfl⟩

end HookRules
