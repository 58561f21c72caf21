/-
Which rules are selected, in which order, and what that does not depend on.

# Sorting by rank

A list that is sorted by rank keeps, within each rank, the order that it had
(`filter_sortedBy`). It is determined by that: two lists that ascend in rank and
have the same elements of each rank in the same order are the same
(`eq_of_ranks`). The induction is over one of them and compares the heads, which
have the least rank of both lists.

# Selected rules

The selection is followed through a list of rules with their places among all
rules (`placed`), so that a rule that is defined twice is two entries. What a
pass runs is read off the matching rules of each rank. Rules that do not match
are in none of these lists, and a rule that moves past rules of other priorities
stays where it was in the list of its own: so neither changes the selection, and
with it the evaluation.
-/
import HookRules.Engine

namespace HookRules

-- ========================================================= sorting by rank

section Ranks

variable {α : Type} (rank : α → Nat)

/-- A list in ascending order of rank. -/
def sortedBy (l : List α) : List α := l.mergeSort fun a b => rank a ≤ rank b

/-- Sorting neither loses a rule nor brings one in. -/
theorem sortedBy_perm (l : List α) : (sortedBy rank l).Perm l :=
  List.mergeSort_perm l _

private theorem rank_trans (a b c : α) :
    decide (rank a ≤ rank b) = true → decide (rank b ≤ rank c) = true →
      decide (rank a ≤ rank c) = true := by
  simp only [decide_eq_true_eq]
  exact Nat.le_trans

private theorem rank_total (a b : α) :
    (decide (rank a ≤ rank b) || decide (rank b ≤ rank a)) = true := by
  simp only [Bool.or_eq_true, decide_eq_true_eq]
  exact Nat.le_total _ _

/-- Ranks ascend after sorting. -/
theorem sortedBy_ascends (l : List α) :
    (sortedBy rank l).Pairwise fun a b => rank a ≤ rank b := by
  refine (List.pairwise_mergeSort (rank_trans rank) (rank_total rank) l).imp ?_
  exact of_decide_eq_true

/-- Sorting keeps the order of the elements of each rank. -/
theorem filter_sortedBy (l : List α) (n : Nat) :
    (sortedBy rank l).filter (rank · = n) = l.filter (rank · = n) := by
  have hequal : (l.filter (rank · = n)).Pairwise
      fun a b => decide (rank a ≤ rank b) = true := by
    refine List.pairwise_of_forall_mem_list ?_
    intro a ha b hb
    have hrank : ∀ c ∈ l.filter (rank · = n), rank c = n := by
      intro c hc
      exact of_decide_eq_true (List.mem_filter.mp hc).2
    rw [hrank a ha, hrank b hb]
    exact decide_eq_true (Nat.le_refl n)
  have hsub : (l.filter (rank · = n)).Sublist (sortedBy rank l) :=
    List.sublist_mergeSort (rank_trans rank) (rank_total rank) hequal
      List.filter_sublist
  have hsub' : (l.filter (rank · = n)).Sublist
      ((sortedBy rank l).filter (rank · = n)) := by
    have h := hsub.filter (rank · = n)
    rw [List.filter_filter] at h
    simpa using h
  refine (hsub'.eq_of_length ?_).symm
  exact ((sortedBy_perm rank l).filter _).length_eq.symm

variable {rank}

/-- Lists with the same elements of each rank have the same elements. -/
theorem mem_of_ranks {l m : List α}
    (h : ∀ n, l.filter (rank · = n) = m.filter (rank · = n)) {a : α}
    (ha : a ∈ l) : a ∈ m := by
  have hfilter : a ∈ l.filter (rank · = rank a) :=
    List.mem_filter.mpr ⟨ha, decide_eq_true rfl⟩
  rw [h (rank a)] at hfilter
  exact (List.mem_filter.mp hfilter).1

/-- The head of a list that ascends in rank has the least rank. -/
theorem rank_head_le {a b : α} {l : List α}
    (hl : (a :: l).Pairwise fun a b => rank a ≤ rank b) (hb : b ∈ a :: l) :
    rank a ≤ rank b := by
  rcases List.mem_cons.mp hb with rfl | hb
  · exact Nat.le_refl _
  · exact (List.pairwise_cons.mp hl).1 b hb

/-- A list that ascends in rank is determined by the elements of each rank. -/
theorem eq_of_ranks {l m : List α} (hl : l.Pairwise fun a b => rank a ≤ rank b)
    (hm : m.Pairwise fun a b => rank a ≤ rank b)
    (h : ∀ n, l.filter (rank · = n) = m.filter (rank · = n)) : l = m := by
  have hsymm := fun n => (h n).symm
  induction l generalizing m with
  | nil =>
      cases m with
      | nil => rfl
      | cons b m => cases mem_of_ranks hsymm (List.mem_cons_self ..)
  | cons a l ih =>
      cases m with
      | nil => cases mem_of_ranks h (List.mem_cons_self ..)
      | cons b m =>
          have hrank : rank a = rank b := by
            refine Nat.le_antisymm ?_ ?_
            · exact rank_head_le hl (mem_of_ranks hsymm (List.mem_cons_self ..))
            · exact rank_head_le hm (mem_of_ranks h (List.mem_cons_self ..))
          have hhead := h (rank b)
          rw [List.filter_cons_of_pos (by simpa using hrank),
            List.filter_cons_of_pos (by simp)] at hhead
          obtain ⟨rfl, htail⟩ := List.cons.inj hhead
          have hrest : ∀ n, l.filter (rank · = n) = m.filter (rank · = n) := by
            intro n
            by_cases hn : rank a = n
            · rw [← hn]
              exact htail
            · have hn' := h n
              rw [List.filter_cons_of_neg (by simpa using hn),
                List.filter_cons_of_neg (by simpa using hn)] at hn'
              exact hn'
          rw [ih (List.pairwise_cons.mp hl).2 (List.pairwise_cons.mp hm).2 hrest
            fun n => (hrest n).symm]

/-- What is sorted is determined by the elements of each rank. -/
theorem sortedBy_congr {l m : List α}
    (h : ∀ n, l.filter (rank · = n) = m.filter (rank · = n)) :
    sortedBy rank l = sortedBy rank m := by
  refine eq_of_ranks (sortedBy_ascends rank l) (sortedBy_ascends rank m) ?_
  intro n
  rw [filter_sortedBy, filter_sortedBy, h n]

/-- An element more in a list takes one place of the sorted list, and nothing
else moves. -/
theorem sortedBy_insert (before after : List α) (a : α) :
    ∃ first last, sortedBy rank (before ++ after) = first ++ last
      ∧ sortedBy rank (before ++ a :: after) = first ++ a :: last := by
  -- its place is told by the elements of its own rank
  have hown := filter_sortedBy rank (before ++ a :: after) (rank a)
  rw [List.filter_append, List.filter_cons_of_pos (by simp)] at hown
  obtain ⟨front, back, hsplit, hfront, hback⟩ :=
    List.filter_eq_append_iff.mp hown
  obtain ⟨skipped, last, rfl, hskipped, -, hlast⟩ :=
    List.filter_eq_cons_iff.mp hback
  have hsorted : sortedBy rank (before ++ a :: after)
      = (front ++ skipped) ++ a :: last := by
    rw [hsplit, List.append_assoc]
  refine ⟨front ++ skipped, last, ?_, hsorted⟩
  have hascends := sortedBy_ascends rank (before ++ a :: after)
  rw [hsorted] at hascends
  refine eq_of_ranks (sortedBy_ascends rank _) (hascends.sublist ?_) ?_
  · exact (List.sublist_cons_self a last).append_left _
  intro n
  rw [filter_sortedBy]
  by_cases hn : rank a = n
  · have hnone : skipped.filter (rank · = n) = [] := by
      rw [← hn]
      exact List.filter_eq_nil_iff.mpr hskipped
    rw [List.filter_append, List.filter_append, List.filter_append, hnone,
      List.append_nil, ← hn, hfront, hlast]
  · -- in the other ranks the element is not seen
    have hunseen : ∀ l m : List α, (l ++ a :: m).filter (rank · = n)
        = (l ++ m).filter (rank · = n) := by
      intro l m
      rw [List.filter_append, List.filter_cons_of_neg (by simpa using hn),
        List.filter_append]
    rw [← hunseen before, ← hunseen (front ++ skipped), ← hsorted,
      filter_sortedBy]

end Ranks

-- ========================================================== selected rules

theorem Verdict.isMatch_iff (v : Verdict) : v.isMatch = true ↔ v = .matched :=
  beq_iff_eq

namespace Selection

/-- One rule runs before another: by the ranks, and within a rank by the places
among all rules. -/
def Precedes (p q : Rule × Nat) : Prop :=
  p.1.priority.rank < q.1.priority.rank
    ∨ p.1.priority.rank = q.1.priority.rank ∧ p.2 < q.2

section

variable (registry : Registry) (k : EventKind) (view : Fields)

/-- The rules that match, with their places among all rules. -/
def matching (rules : List Rule) : List (Rule × Nat) :=
  rules.zipIdx.filter fun p => (p.1.verdict registry k view).isMatch

/-- The rules that match, with their places, in the order of running. -/
def placed (rules : List Rule) : List (Rule × Nat) :=
  sortedBy (·.1.priority.rank) (matching registry k view rules)

/-- The rules that match are those with that verdict, in the order of their
definition. -/
theorem matching_rules (rules : List Rule) :
    (matching registry k view rules).map (·.1)
      = rules.filter fun r => (r.verdict registry k view).isMatch := by
  have h := List.filter_map (f := Prod.fst) (l := rules.zipIdx)
    (p := fun r => (r.verdict registry k view).isMatch)
  rw [List.zipIdx_map_fst] at h
  exact h.symm

/-- The places of rules ascend. -/
theorem matching_ascends (rules : List Rule) :
    (matching registry k view rules).Pairwise fun p q => p.2 < q.2 := by
  have hall : rules.zipIdx.Pairwise fun p q => p.2 < q.2 := by
    refine List.pairwise_map.mp ?_
    rw [List.zipIdx_map_snd]
    exact List.pairwise_lt_range'
  exact hall.sublist List.filter_sublist

/-- A rule is placed at a position exactly if it stands there and matches, so
two rules that are alike are told apart. -/
theorem mem_placed {rules : List Rule} {r : Rule} {i : Nat} :
    (r, i) ∈ placed registry k view rules
      ↔ rules[i]? = some r ∧ r.verdict registry k view = .matched := by
  unfold placed
  rw [(sortedBy_perm _ _).mem_iff, matching, List.mem_filter,
    List.mem_zipIdx_iff_getElem?, Verdict.isMatch_iff]

/-- No place is selected twice. -/
theorem placed_nodup (rules : List Rule) :
    ((placed registry k view rules).map (·.2)).Nodup := by
  refine (((sortedBy_perm _ _).map _).nodup_iff).mpr ?_
  refine List.pairwise_map.mpr ((matching_ascends registry k view rules).imp ?_)
  exact Nat.ne_of_lt

/-- Rules run by rank, and within a rank in the order of their places. -/
theorem placed_ordered (rules : List Rule) :
    (placed registry k view rules).Pairwise Precedes := by
  have hascends := sortedBy_ascends (fun p : Rule × Nat => p.1.priority.rank)
    (matching registry k view rules)
  refine List.pairwise_iff_forall_sublist.mpr ?_
  intro p q hpq
  have hle : p.1.priority.rank ≤ q.1.priority.rank :=
    List.pairwise_iff_forall_sublist.mp hascends hpq
  rcases Nat.lt_or_eq_of_le hle with hlt | heq
  · exact Or.inl hlt
  · -- both are of one rank, in which sorting changes nothing
    have hrank := hpq.filter (·.1.priority.rank = q.1.priority.rank)
    rw [placed, filter_sortedBy, List.filter_cons_of_pos (by simpa using heq),
      List.filter_cons_of_pos (by simp), List.filter_nil] at hrank
    exact Or.inr ⟨heq, List.pairwise_iff_forall_sublist.mp
      (matching_ascends registry k view rules)
      (hrank.trans List.filter_sublist)⟩

/-- What is selected are the rules that were placed. -/
theorem select_rules (rules : List Rule) :
    (select registry k view rules).map (·.rule)
      = (placed registry k view rules).map (·.1) := by
  have hsorted : (placed registry k view rules).map (·.1)
      = sorted (rules.filter fun r => (r.verdict registry k view).isMatch) := by
    rw [← matching_rules]
    exact List.map_mergeSort fun _ _ _ _ => rfl
  rw [hsorted, select, numbered, List.map_map]
  exact List.zipIdx_map_fst ..

/-- The selected rules are numbered in their order. -/
theorem select_orders (rules : List Rule) :
    (select registry k view rules).map (·.order)
      = List.range (select registry k view rules).length := by
  rw [select, numbered, List.map_map, List.length_map, List.length_zipIdx,
    List.range_eq_range']
  exact List.zipIdx_map_snd ..

end

-- ========================================================== rearrangements

/-- Lists of rules that differ by rules that do not match, anywhere, and by
rules that moved past rules of other priorities. -/
inductive Rearranged (Matches : Rule → Prop) : List Rule → List Rule → Prop where
  | refl (rules : List Rule) : Rearranged Matches rules rules
  | symm {rules rules' : List Rule} (h : Rearranged Matches rules rules') :
      Rearranged Matches rules' rules
  | trans {rules rules' rules'' : List Rule}
      (h : Rearranged Matches rules rules')
      (h' : Rearranged Matches rules' rules'') :
      Rearranged Matches rules rules''
  | insert (before : List Rule) {r : Rule} (after : List Rule)
      (h : ¬ Matches r) :
      Rearranged Matches (before ++ after) (before ++ r :: after)
  | move (before : List Rule) (r : Rule) {passed : List Rule}
      (after : List Rule) (h : ∀ s ∈ passed, s.priority ≠ r.priority) :
      Rearranged Matches (before ++ r :: (passed ++ after))
        (before ++ (passed ++ r :: after))

/-- Priorities of one rank are the same, so ranks decide all that names of
priorities decide. -/
theorem rank_injective {p q : Priority} (h : p.rank = q.rank) : p = q := by
  cases p <;> cases q <;> first | rfl | cases h

/-- Rearranged lists have the same matching rules of each rank, in the same
order. -/
theorem Rearranged.filter_rank {runs : Rule → Bool} {rules rules' : List Rule}
    (h : Rearranged (fun r => runs r = true) rules rules') (n : Nat) :
    (rules.filter runs).filter (·.priority.rank = n)
      = (rules'.filter runs).filter (·.priority.rank = n) := by
  induction h with
  | refl rules => rfl
  | symm _ ih => exact ih.symm
  | trans _ _ ih ih' => exact ih.trans ih'
  | insert before after h =>
      simp only [List.filter_append, List.filter_cons_of_neg h]
  | @move before r passed after h =>
      rw [List.filter_filter, List.filter_filter]
      simp only [List.filter_append, List.filter_cons]
      by_cases hr : r.priority.rank = n
      · -- no rule that was passed is of the rank
        have hpassed : passed.filter
            (fun s => decide (s.priority.rank = n) && runs s) = [] := by
          refine List.filter_eq_nil_iff.mpr ?_
          intro s hs hrank
          have hn := of_decide_eq_true (Bool.and_eq_true_iff.mp hrank).1
          exact h s hs (rank_injective (hn.trans hr.symm))
        rw [hpassed, List.nil_append, List.nil_append]
      · rw [decide_eq_false hr, Bool.false_and, if_neg Bool.false_ne_true,
          if_neg Bool.false_ne_true]

/-- Rearranged lists give the same selection. -/
theorem Rearranged.select_eq {registry : Registry} {k : EventKind}
    {view : Fields} {rules rules' : List Rule}
    (h : Rearranged (fun r => r.verdict registry k view = .matched) rules
      rules') :
    select registry k view rules = select registry k view rules' := by
  simp only [← Verdict.isMatch_iff] at h
  have hsorted : sortedBy (·.priority.rank)
        (rules.filter fun r => (r.verdict registry k view).isMatch)
      = sortedBy (·.priority.rank)
        (rules'.filter fun r => (r.verdict registry k view).isMatch) :=
    sortedBy_congr h.filter_rank
  exact congrArg numbered hsorted

-- ============================================================== one rule more

/-- The selected rules are the matching ones in the order of their ranks. -/
theorem select_sorted (registry : Registry) (k : EventKind) (view : Fields)
    (rules : List Rule) :
    (select registry k view rules).map (·.rule)
      = sortedBy (·.priority.rank)
        (rules.filter fun r => (r.verdict registry k view).isMatch) := by
  rw [select, numbered, List.map_map]
  exact List.zipIdx_map_fst ..

/-- A rule more is selected at one place or not at all, and the others are
selected as before. -/
theorem select_insert (registry : Registry) (k : EventKind) (view : Fields)
    (before after : List Rule) (r : Rule) :
    (select registry k view (before ++ r :: after)).map (·.rule)
        = (select registry k view (before ++ after)).map (·.rule)
      ∨ ∃ first last,
        (select registry k view (before ++ after)).map (·.rule) = first ++ last
          ∧ (select registry k view (before ++ r :: after)).map (·.rule)
            = first ++ r :: last := by
  rw [select_sorted, select_sorted, List.filter_append, List.filter_append]
  by_cases hmatch : (r.verdict registry k view).isMatch = true
  · rw [List.filter_cons, if_pos hmatch]
    exact Or.inr (sortedBy_insert _ _ r)
  · rw [List.filter_cons, if_neg hmatch]
    exact Or.inl rfl

end Selection

/-- The selected rules are exactly the places of the list with a rule that
matches, each once, in the order of their ranks and within a rank in the order
in which they are defined; they are numbered from zero. So an evaluation is the
same, with all that comes out of it, for a list that was rearranged by rules
that do not match and by moving rules past others of a different priority. -/
theorem evaluation_follows_rank_and_place :
    (∀ (registry : Registry) (k : EventKind) (view : Fields)
        (rules : List Rule),
      let selected := Selection.select registry k view rules
      ∃ placed : List (Rule × Nat),
        (∀ r i, (r, i) ∈ placed
          ↔ rules[i]? = some r ∧ r.verdict registry k view = .matched)
        ∧ (placed.map (·.2)).Nodup
        ∧ placed.Pairwise Selection.Precedes
        ∧ selected.map (·.rule) = placed.map (·.1)
        ∧ selected.map (·.order) = List.range selected.length)
    ∧ ∀ (e : Engine) (world : World) (c : Context) (clock : Clock)
        (rules rules' : List Rule),
      Selection.Rearranged (fun r =>
          r.verdict (e.registry c) c.kind (c.view clock.matching) = .matched)
        rules rules' →
      e.evaluateRulesIn world rules c clock
        = e.evaluateRulesIn world rules' c clock := by
  constructor
  · intro registry k view rules
    exact ⟨Selection.placed registry k view rules,
      fun r i => Selection.mem_placed registry k view,
      Selection.placed_nodup registry k view rules,
      Selection.placed_ordered registry k view rules,
      Selection.select_rules registry k view rules,
      Selection.select_orders registry k view rules⟩
  · intro e world c clock rules rules' h
    simp only [Engine.evaluateRulesIn, h.select_eq]

/-- A rule of low priority may come before or after one of high priority, with
or without a disabled rule between them. -/
theorem evaluation_of_moved_and_disabled :
    let e : Engine :=
      { host := ⟨.empty, none, "/"⟩
        runner := fun _ => .ok ⟨0, .exited 0, [], []⟩ }
    let c := Context.ofEvent "/" ⟨{ sessionId := "s" }, .stop false⟩
    let low : Rule := { id := "low", priority := .low }
    let high : Rule := { id := "high", priority := .high, result := .block }
    let off : Rule := { id := "off", enabled := false, terminal := true }
    Selection.Rearranged
        (fun r => r.verdict (e.registry c) c.kind (c.view "") = .matched)
        [low, high] [high, off, low]
      ∧ e.evaluateRulesIn e.world [low, high] c ""
        = e.evaluateRulesIn e.world [high, off, low] c "" := by
  intro e c low high off
  have hmove : Selection.Rearranged
      (fun r => r.verdict (e.registry c) c.kind (c.view "") = .matched)
      ([] ++ low :: ([high] ++ [])) ([] ++ ([high] ++ low :: [])) :=
    .move [] low [] (by decide)
  have hoff : ¬ off.verdict (e.registry c) c.kind (c.view "") = .matched :=
    nofun
  have h := hmove.trans (.insert [high] [low] hoff)
  exact ⟨h, evaluation_follows_rank_and_place.2 e e.world c "" _ _ h⟩

end HookRules
