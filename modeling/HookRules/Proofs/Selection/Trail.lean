/-
That a trail agrees with the selection.

# Two ways to one order

The selection sorts the rules that match by their rank alone, with a sort that
keeps the order of definition within a rank, and numbers them as they come. The
trail judges all rules first, sorts the indices of those that match by rank and
index, and writes each position back into the entry at that index. Both sorts
give one list, since the rules that match, in the order of running with their
places among all rules, each precede all later ones, and only one arrangement of
a list does that (`running_judged`). No index is written twice, so an entry keeps
what was written to it (`getElem?_written`).

# Numbers as counts

What is written can be told without any sort: it is the number of the rules that
match and precede. In a list whose elements each precede all later ones, an
element has its index many elements before it (`countP_precedes`), so the count
is the index at which a rule was placed (`numberOf_placed`), and with it the
trail is told entry by entry (`trail_eq`).

Rules are followed by their places and not by their ids, since an id and even a
whole rule can stand in a list twice.
-/
import HookRules.Proofs.Selection.Order

namespace HookRules

/-- In a list in which each element precedes all later ones, the elements that
precede one of them are those at smaller indices. -/
theorem countP_precedes {α : Type} {R : α → α → Prop} [DecidableRel R]
    (hasymm : ∀ a b, R a b → ¬ R b a) {l : List α} (hl : l.Pairwise R) {n : Nat}
    {x : α} (hx : l[n]? = some x) : l.countP (fun a => decide (R a x)) = n := by
  induction l generalizing n with
  | nil => cases hx
  | cons a l ih =>
      obtain ⟨hhead, htail⟩ := List.pairwise_cons.mp hl
      cases n with
      | zero =>
          obtain rfl : a = x := Option.some.inj hx
          refine List.countP_eq_zero.mpr ?_
          intro b hb hbefore
          have hba : R b a := of_decide_eq_true hbefore
          rcases List.mem_cons.mp hb with rfl | hb
          · exact hasymm b b hba hba
          · exact hasymm a b (hhead b hb) hba
      | succ n =>
          have hxl : l[n]? = some x := hx
          have hax : R a x := hhead x (List.mem_of_getElem? hxl)
          have hrest := ih htail hxl
          rw [List.countP_cons, hrest, if_pos (decide_eq_true hax)]

namespace Selection

instance (p q : Rule × Nat) : Decidable (Precedes p q) :=
  inferInstanceAs (Decidable (_ ∨ _))

theorem Precedes.asymm (p q : Rule × Nat) (h : Precedes p q) :
    ¬ Precedes q p := by
  unfold Precedes at h ⊢
  omega

section

variable (registry : Registry) (k : EventKind) (view : Fields)

-- ============================================================ numbers of rules

/-- The number of the rule at a place: how many of the rules that match precede
it in the order of running. -/
def numberOf (rules : List Rule) (p : Rule × Nat) : Nat :=
  (matching registry k view rules).countP fun q => decide (Precedes q p)

/-- A rule that was placed has the index at which it was placed as its number. -/
theorem numberOf_placed {rules : List Rule} {n : Nat} {p : Rule × Nat}
    (h : (placed registry k view rules)[n]? = some p) :
    numberOf registry k view rules p = n := by
  rw [numberOf, ← (sortedBy_perm _ _).countP_eq]
  exact countP_precedes Precedes.asymm (placed_ordered registry k view rules) h

-- ============================================================= sorted indices

/-- A rule with its place as the entry that it has when it is judged. -/
private def entryOf (p : Rule × Nat) : TrailEntry × Nat :=
  (judged registry k view p.1, p.2)

/-- The entries that match, with their indices, are those of the rules that
match. -/
theorem filter_judged (rules : List Rule) :
    ((rules.map (judged registry k view)).zipIdx.filter
        fun p => p.1.verdict.isMatch)
      = (matching registry k view rules).map (entryOf registry k view) := by
  rw [List.zipIdx_map, List.filter_map, matching]
  rfl

theorem runsFirst_iff (a b : TrailEntry × Nat) :
    runsFirst a b = true ↔ a.1.priority.rank < b.1.priority.rank
      ∨ a.1.priority.rank = b.1.priority.rank ∧ a.2 ≤ b.2 := by
  simp only [runsFirst, Bool.or_eq_true, Bool.and_eq_true, decide_eq_true_eq,
    beq_iff_eq]

theorem runsFirst_trans (a b c : TrailEntry × Nat) (h : runsFirst a b = true)
    (h' : runsFirst b c = true) : runsFirst a c = true := by
  rw [runsFirst_iff] at h h' ⊢
  omega

theorem runsFirst_total (a b : TrailEntry × Nat) :
    (runsFirst a b || runsFirst b a) = true := by
  rw [Bool.or_eq_true, runsFirst_iff, runsFirst_iff]
  omega

/-- Entries that each run first stand at one index. -/
theorem runsFirst_antisymm {a b : TrailEntry × Nat} (h : runsFirst a b = true)
    (h' : runsFirst b a = true) : a.2 = b.2 := by
  rw [runsFirst_iff] at h h'
  omega

/-- A rule that precedes another has an entry that runs first. -/
theorem Precedes.runsFirst {p q : Rule × Nat} (h : Precedes p q) :
    runsFirst (entryOf registry k view p) (entryOf registry k view q)
      = true := by
  rw [runsFirst_iff]
  exact h.imp_right fun h => ⟨h.1, Nat.le_of_lt h.2⟩

/-- Sorting the entries that match by rank and index gives the order in which
the rules that match were placed. -/
theorem mergeSort_matching (rules : List Rule) :
    (matching registry k view rules).mergeSort
        (fun p q =>
          runsFirst (entryOf registry k view p) (entryOf registry k view q))
      = placed registry k view rules := by
  have hsorted := List.pairwise_mergeSort
    (fun p q r : Rule × Nat =>
      runsFirst_trans (entryOf registry k view p) (entryOf registry k view q)
        (entryOf registry k view r))
    (fun _ _ => runsFirst_total _ _)
    (matching registry k view rules)
  have hplaced := (placed_ordered registry k view rules).imp
    (Precedes.runsFirst registry k view)
  refine List.Perm.eq_of_pairwise ?_ hsorted hplaced
    ((List.mergeSort_perm _ _).trans (sortedBy_perm _ _).symm)
  -- at one index there is one rule
  rintro ⟨r, i⟩ ⟨s, j⟩ hp hq h h'
  obtain rfl : i = j := runsFirst_antisymm h h'
  have hr : rules[i]? = some r := List.mem_zipIdx_iff_getElem?.mp
    (List.mem_filter.mp ((List.mergeSort_perm _ _).mem_iff.mp hp)).1
  have hs := ((mem_placed registry k view).mp hq).1
  rw [hr] at hs
  rw [Option.some.inj hs]

/-- The indices that the trail sorts are the places in the order of running. -/
theorem running_judged (rules : List Rule) :
    running (rules.map (judged registry k view))
      = (placed registry k view rules).map (·.2) := by
  have hmap := List.map_mergeSort (f := entryOf registry k view)
    (r := fun p q =>
      runsFirst (entryOf registry k view p) (entryOf registry k view q))
    (s := runsFirst) (l := matching registry k view rules)
    fun _ _ _ _ => rfl
  rw [running, filter_judged, ← hmap, mergeSort_matching, List.map_map]
  rfl

-- ============================================================= written places

theorem getElem?_writeOrder_self (entries : List TrailEntry) (i n : Nat) :
    (writeOrder entries i n)[i]?
      = entries[i]?.map fun e => { e with order := some n } := by
  rw [writeOrder, List.getElem?_modify]
  simp only [if_pos]
  rfl

/-- Writing to an entry leaves the others alone. -/
theorem getElem?_writeOrder_ne {i j : Nat} (h : i ≠ j)
    (entries : List TrailEntry) (n : Nat) :
    (writeOrder entries i n)[j]? = entries[j]? := by
  rw [writeOrder, List.getElem?_modify]
  simp only [if_neg h]
  exact id_map _

/-- The entries of a trail when the positions of a list of indices were written
into them, counted from a start. -/
private def written (entries : List TrailEntry) (indices : List Nat)
    (start : Nat) : List TrailEntry :=
  (indices.zipIdx start).foldl
    (fun entries p => writeOrder entries p.1 p.2) entries

/-- Nothing is written to an index that is not in the list. -/
theorem getElem?_written_of_notMem {indices : List Nat} {i : Nat}
    (hi : i ∉ indices) (start : Nat) (entries : List TrailEntry) :
    (written entries indices start)[i]? = entries[i]? := by
  induction indices generalizing start entries with
  | nil => rfl
  | cons j indices ih =>
      obtain ⟨hij, hi⟩ := List.ne_and_not_mem_of_not_mem_cons hi
      rw [written, List.zipIdx_cons, List.foldl_cons]
      exact (ih hi (start + 1) _).trans
        (getElem?_writeOrder_ne (Ne.symm hij) entries start)

/-- An index of a list without repetitions gets its position. -/
theorem getElem?_written {indices : List Nat} (hnodup : indices.Nodup)
    {i n : Nat} (hi : indices[n]? = some i) (start : Nat)
    (entries : List TrailEntry) :
    (written entries indices start)[i]?
      = entries[i]?.map fun e => { e with order := some (start + n) } := by
  induction indices generalizing start n entries with
  | nil => cases hi
  | cons j indices ih =>
      obtain ⟨hj, hnodup⟩ := List.nodup_cons.mp hnodup
      rw [written, List.zipIdx_cons, List.foldl_cons]
      cases n with
      | zero =>
          obtain rfl : j = i := Option.some.inj hi
          exact (getElem?_written_of_notMem hj (start + 1) _).trans
            (getElem?_writeOrder_self entries j start)
      | succ n =>
          have hi' : indices[n]? = some i := hi
          have hij : j ≠ i := by
            rintro rfl
            exact hj (List.mem_of_getElem? hi')
          refine (ih hnodup hi' (start + 1) _).trans ?_
          rw [getElem?_writeOrder_ne hij, Nat.add_right_comm,
            Nat.add_assoc start n 1]

-- ==================================================================== entries

/-- The entry of a trail for a rule at a place. -/
def entryAt (rules : List Rule) (p : Rule × Nat) : TrailEntry where
  ruleId := p.1.id
  priority := p.1.priority
  condition := p.1.condition
  verdict := p.1.verdict registry k view
  order :=
    if (p.1.verdict registry k view).isMatch then
      some (numberOf registry k view rules p)
    else none

/-- The entry of a rule that matches is what it was judged, with its number. -/
theorem entryAt_of_matched (rules : List Rule) {p : Rule × Nat}
    (h : p.1.verdict registry k view = .matched) :
    entryAt registry k view rules p
      = { judged registry k view p.1 with
          order := some (numberOf registry k view rules p) } := by
  simp [entryAt, judged, h, Verdict.isMatch]

/-- The entry of a rule that does not match is what it was judged. -/
theorem entryAt_of_not_matched (rules : List Rule) {p : Rule × Nat}
    (h : ¬ p.1.verdict registry k view = .matched) :
    entryAt registry k view rules p = judged registry k view p.1 := by
  simp [entryAt, judged, h, Verdict.isMatch]

/-- A trail tells of the rule at each place what its verdict and its number are,
whatever way the numbers took into the entries. -/
theorem trail_eq (rules : List Rule) :
    trail registry k view rules
      = rules.zipIdx.map (entryAt registry k view rules) := by
  have htrail : trail registry k view rules
      = written (rules.map (judged registry k view))
        ((placed registry k view rules).map (·.2)) 0 := by
    rw [← running_judged]
    rfl
  refine List.ext_getElem? ?_
  intro i
  rw [htrail, List.getElem?_map, List.getElem?_zipIdx, Nat.zero_add]
  by_cases hi : i ∈ (placed registry k view rules).map (·.2)
  · obtain ⟨n, hn⟩ := List.mem_iff_getElem?.mp hi
    have hp := hn
    rw [List.getElem?_map, Option.map_eq_some_iff] at hp
    obtain ⟨⟨r, j⟩, hp, rfl⟩ := hp
    obtain ⟨hr, hmatch⟩ :=
      (mem_placed registry k view).mp (List.mem_of_getElem? hp)
    rw [getElem?_written (placed_nodup registry k view rules) hn,
      List.getElem?_map, hr, Nat.zero_add, Option.map_some, Option.map_some,
      Option.map_some, Option.map_some,
      entryAt_of_matched registry k view rules hmatch,
      numberOf_placed registry k view hp]
  · rw [getElem?_written_of_notMem hi, List.getElem?_map]
    cases hr : rules[i]? with
    | none => rfl
    | some r =>
        have hmatch : ¬ r.verdict registry k view = .matched := by
          intro h
          exact hi (List.mem_map.mpr
            ⟨(r, i), (mem_placed registry k view).mpr ⟨hr, h⟩, rfl⟩)
        rw [Option.map_some, Option.map_some, Option.map_some,
          entryAt_of_not_matched registry k view rules hmatch]

theorem getElem?_trail {rules : List Rule} {i : Nat} {e : TrailEntry}
    (h : (trail registry k view rules)[i]? = some e) :
    ∃ r, rules[i]? = some r ∧ e = entryAt registry k view rules (r, i) := by
  rw [trail_eq, List.getElem?_map, List.getElem?_zipIdx, Nat.zero_add] at h
  cases hr : rules[i]? with
  | none =>
      rw [hr] at h
      cases h
  | some r =>
      rw [hr] at h
      exact ⟨r, rfl, (Option.some.inj h).symm⟩

/-- An entry has a number exactly when its rule matches. -/
theorem entryAt_order_isSome (rules : List Rule) (p : Rule × Nat) :
    (entryAt registry k view rules p).order.isSome = true
      ↔ (entryAt registry k view rules p).verdict = .matched := by
  rw [← Verdict.isMatch_iff]
  cases hmatch : (p.1.verdict registry k view).isMatch <;>
    simp [entryAt, hmatch]

/-- A place stands in the order of running with the rule that is there. -/
theorem getElem?_places {rules : List Rule} {r : Rule} {i : Nat}
    (hr : rules[i]? = some r) (n : Nat) :
    ((placed registry k view rules).map (·.2))[n]? = some i
      ↔ (placed registry k view rules)[n]? = some (r, i) := by
  rw [List.getElem?_map, Option.map_eq_some_iff]
  constructor
  · rintro ⟨⟨q, j⟩, hq, rfl⟩
    have hq' := ((mem_placed registry k view).mp (List.mem_of_getElem? hq)).1
    rw [hr] at hq'
    rw [hq, Option.some.inj hq']
  · intro h
    exact ⟨(r, i), h, rfl⟩

/-- The number of an entry is the index at which its place was placed. -/
theorem order_eq_some_iff {rules : List Rule} {r : Rule} {i : Nat}
    (hr : rules[i]? = some r) (n : Nat) :
    (entryAt registry k view rules (r, i)).order = some n
      ↔ (placed registry k view rules)[n]? = some (r, i) := by
  constructor
  · intro h
    have hmatch : r.verdict registry k view = .matched :=
      (entryAt_order_isSome registry k view rules (r, i)).mp
        (Option.isSome_of_eq_some h)
    obtain ⟨m, hm⟩ := List.mem_iff_getElem?.mp
      ((mem_placed registry k view).mpr ⟨hr, hmatch⟩)
    -- the index that it has in any case is its number
    have hnumber := numberOf_placed registry k view hm
    rw [entryAt, if_pos ((Verdict.isMatch_iff _).mpr hmatch), hnumber] at h
    rw [← Option.some.inj h]
    exact hm
  · intro h
    have hmatch : r.verdict registry k view = .matched :=
      ((mem_placed registry k view).mp (List.mem_of_getElem? h)).2
    rw [entryAt, if_pos ((Verdict.isMatch_iff _).mpr hmatch),
      numberOf_placed registry k view h]

-- =================================================== the trail as a selection

/-- The rules that have a number in a trail, with their numbers, as they are
defined. -/
def numberedIn (trail : List TrailEntry) (rules : List Rule) : List Selected :=
  (trail.zip rules).filterMap fun (e, r) => e.order.map fun n => ⟨r, n⟩

/-- What is selected, told by the places. -/
theorem select_placed (rules : List Rule) :
    select registry k view rules
      = (placed registry k view rules).zipIdx.map
        fun p => ⟨p.1.1, p.2⟩ := by
  have hsorted : sorted (rules.filter fun r =>
      (r.verdict registry k view).isMatch)
        = (placed registry k view rules).map (·.1) := by
    rw [← select_rules, select_sorted]
    rfl
  rw [select, hsorted, numbered, List.zipIdx_map, List.map_map]
  rfl

/-- A matching rule with the number that the trail gives to it. -/
private def withNumber (rules : List Rule) (p : Rule × Nat) : Selected :=
  ⟨p.1, numberOf registry k view rules p⟩

theorem select_withNumber (rules : List Rule) :
    select registry k view rules
      = (placed registry k view rules).map
        (withNumber registry k view rules) := by
  rw [select_placed]
  refine List.ext_getElem? ?_
  intro n
  rw [List.getElem?_map, List.getElem?_map, List.getElem?_zipIdx,
    Nat.zero_add]
  cases hp : (placed registry k view rules)[n]? with
  | none => rfl
  | some p =>
      rw [Option.map_some, Option.map_some, Option.map_some, withNumber,
        numberOf_placed registry k view hp]

theorem numberedIn_withNumber (rules : List Rule) :
    numberedIn (trail registry k view rules) rules
      = (matching registry k view rules).map
        (withNumber registry k view rules) := by
  have hzip : (trail registry k view rules).zip rules
      = rules.zipIdx.map fun p => (entryAt registry k view rules p, p.1) := by
    have hrules : rules.zipIdx.map (·.1) = rules := List.zipIdx_map_fst ..
    have h := List.zip_map' (f := entryAt registry k view rules) (g := (·.1))
      (l := rules.zipIdx)
    rw [hrules] at h
    rw [trail_eq, h]
  rw [numberedIn, hzip, List.filterMap_map, matching, ← List.filterMap_eq_map,
    List.filterMap_filter]
  congr 1
  funext p
  by_cases hmatch : (p.1.verdict registry k view).isMatch = true
  · simp [entryAt, withNumber, hmatch]
  · simp [entryAt, hmatch]

/-- A selected rule stands at the index that is its number. -/
theorem getElem?_order {rules : List Rule} {s : Selected}
    (h : s ∈ select registry k view rules) :
    (select registry k view rules)[s.order]? = some s := by
  obtain ⟨n, hn⟩ := List.mem_iff_getElem?.mp h
  have horder : ((select registry k view rules).map (·.order))[n]?
      = some s.order := by
    rw [List.getElem?_map, hn]
    rfl
  rw [select_orders] at horder
  obtain ⟨hlt, heq⟩ := List.getElem?_eq_some_iff.mp horder
  rw [List.getElem_range] at heq
  rw [← heq]
  exact hn

/-- The numbered rules of a trail, in the order of their numbers, are what is
selected. -/
theorem sortedBy_numberedIn (rules : List Rule) :
    sortedBy (·.order) (numberedIn (trail registry k view rules) rules)
      = select registry k view rules := by
  have hperm : (sortedBy (·.order)
        (numberedIn (trail registry k view rules) rules)).Perm
      (select registry k view rules) := by
    refine (sortedBy_perm _ _).trans ?_
    rw [numberedIn_withNumber, select_withNumber]
    exact (sortedBy_perm _ _).symm.map _
  have hordered : (select registry k view rules).Pairwise
      fun s t => s.order ≤ t.order := by
    refine List.pairwise_map.mp ?_
    rw [select_orders]
    exact List.pairwise_lt_range.imp Nat.le_of_lt
  refine hperm.eq_of_pairwise ?_ (sortedBy_ascends _ _) hordered
  -- no two selected rules have one number
  intro s t hs ht hst hts
  have hsame : s.order = t.order := Nat.le_antisymm hst hts
  have hs' := getElem?_order registry k view (hperm.mem_iff.mp hs)
  rw [hsame, getElem?_order registry k view ht] at hs'
  exact (Option.some.inj hs').symm

end

end Selection

/-- The trail of an event tells of every rule, in the order of definition, and
what it tells is what the selection does with the rule. A rule has a number
exactly when it matches, and those are the places that are selected; the number
is the index in the selection. So the rules that the trail numbers, taken in the
order of their numbers, are the selected rules with the numbers that they have
there. -/
theorem trail_agrees_with_selection (registry : Registry) (k : EventKind)
    (view : Fields) (rules : List Rule) :
    let trail := Selection.trail registry k view rules
    let selected := Selection.select registry k view rules
    trail.map (fun e => (e.ruleId, e.priority, e.condition, e.verdict))
        = rules.map (fun r =>
          (r.id, r.priority, r.condition, r.verdict registry k view))
      ∧ (∀ e ∈ trail, e.order.isSome = true ↔ e.verdict = .matched)
      ∧ (∃ placed : List (Rule × Nat),
        (∀ r i, (r, i) ∈ placed
          ↔ rules[i]? = some r ∧ r.verdict registry k view = .matched)
        ∧ (placed.map (·.2)).Nodup
        ∧ placed.Pairwise Selection.Precedes
        ∧ selected = placed.zipIdx.map (fun p => ⟨p.1.1, p.2⟩)
        ∧ ∀ i e, trail[i]? = some e →
          (e.verdict = .matched ↔ i ∈ placed.map (·.2))
            ∧ ∀ n, e.order = some n ↔ (placed.map (·.2))[n]? = some i)
      ∧ sortedBy (·.order) (Selection.numberedIn trail rules) = selected := by
  refine ⟨?_, ?_, ⟨Selection.placed registry k view rules,
    fun r i => Selection.mem_placed registry k view,
    Selection.placed_nodup registry k view rules,
    Selection.placed_ordered registry k view rules,
    Selection.select_placed registry k view rules, ?_⟩,
    Selection.sortedBy_numberedIn registry k view rules⟩
  · have hrules : rules.zipIdx.map (·.1) = rules := List.zipIdx_map_fst ..
    conv => rhs; rw [← hrules]
    rw [Selection.trail_eq, List.map_map, List.map_map]
    rfl
  · intro e he
    rw [Selection.trail_eq] at he
    obtain ⟨p, -, rfl⟩ := List.mem_map.mp he
    exact Selection.entryAt_order_isSome registry k view rules p
  · intro i e he
    obtain ⟨r, hr, rfl⟩ := Selection.getElem?_trail registry k view he
    refine ⟨?_, ?_⟩
    · rw [List.mem_iff_getElem?]
      simp only [Selection.getElem?_places registry k view hr]
      rw [← List.mem_iff_getElem?, Selection.mem_placed]
      exact ⟨fun h => ⟨hr, h⟩, fun h => h.2⟩
    · intro n
      rw [Selection.order_eq_some_iff registry k view hr,
        Selection.getElem?_places registry k view hr]

/-- A rule that is defined twice has two entries with numbers of their own. -/
example :
    let twice : Rule := { id := "a", priority := .low }
    let first : Rule := { id := "b", priority := .high }
    (Selection.trail { host := ⟨.empty, none, "/"⟩, cwd := "/" } .stop []
      [twice, first, twice]).map (·.order) = [some 1, some 0, some 2] := by
  cbv

end HookRules
