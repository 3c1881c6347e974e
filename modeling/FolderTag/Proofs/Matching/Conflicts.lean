import FolderTag.Proofs.Matching.Completion
import Mathlib.Data.List.Nodup
import Mathlib.Data.List.Count
import Mathlib.Data.List.Perm.Basic
import Mathlib.Data.List.Induction

/-! # Conflicts

Among matches with whole priorities, the loop that puts each match behind those of its priority
ends with the groups of all priorities, in the order in which they first come up. The conflicts are
the groups that share their priority. -/

namespace FolderTag.Matching

open FolderTag.Document FolderTag.Log FolderTag.Pattern

variable {text : String} {q : Query} {rules : List Rule} {m : RuleMatch}
variable {ms before after found : List RuleMatch} {groups : List (List RuleMatch)} {n : Int}
variable {ranks : List Int}

/-! ## First appearances -/

section FirstAppearances

variable {α : Type} [DecidableEq α] {a : α} {l : List α}

theorem eraseDups_concat : (l ++ [a]).eraseDups = l.eraseDups ++ if a ∈ l then [] else [a] := by
  rw [List.eraseDups_append]
  by_cases h : a ∈ l <;> simp [List.removeAll, h, List.eraseDups_cons]

theorem pairwise_idxOf_eraseDups :
    l.eraseDups.Pairwise fun a b => l.idxOf a < l.idxOf b := by
  -- Items are taken off the end: what is behind all others comes up last, if it is new at all.
  induction l using List.reverseRecOn with
  | nil => exact List.Pairwise.nil
  | append_singleton l c ih =>
      have hkept : l.eraseDups.Pairwise fun a b => (l ++ [c]).idxOf a < (l ++ [c]).idxOf b := by
        refine ih.imp_of_mem fun ha hb h => ?_
        rwa [List.idxOf_append_of_mem (List.mem_eraseDups.1 ha),
          List.idxOf_append_of_mem (List.mem_eraseDups.1 hb)]
      rw [eraseDups_concat]
      split
      · simpa using hkept
      · rename_i hc
        refine List.pairwise_append.2 ⟨hkept, List.pairwise_singleton _ _, fun a ha b hb => ?_⟩
        obtain rfl := List.mem_singleton.1 hb
        have hal : a ∈ l := List.mem_eraseDups.1 ha
        rw [List.idxOf_append_of_mem hal, List.idxOf_append_of_notMem hc]
        exact Nat.lt_add_right _ (List.idxOf_lt_length_iff.2 hal)

theorem nodup_eraseDups : l.eraseDups.Nodup :=
  pairwise_idxOf_eraseDups.imp fun h => by
    rintro rfl
    exact Nat.lt_irrefl _ h

end FirstAppearances

/-! ## Groups -/

/-- The matches of one priority, in their order. -/
def ofRank (ms : List RuleMatch) (n : Int) : List RuleMatch := ms.filter (·.rank = n)

/-- The priorities of matches, in the order in which they first come up. -/
def ranksOf (ms : List RuleMatch) : List Int := (ms.map RuleMatch.rank).eraseDups

/-- The matches of each priority. -/
def groupsOf (ms : List RuleMatch) : List (List RuleMatch) := (ranksOf ms).map (ofRank ms)

@[simp] theorem mem_ofRank {a : RuleMatch} : a ∈ ofRank ms n ↔ a ∈ ms ∧ a.rank = n := by
  simp [ofRank]

@[simp] theorem mem_ranksOf : n ∈ ranksOf ms ↔ ∃ a ∈ ms, a.rank = n := by
  simp [ranksOf]

theorem nodup_ranksOf : (ranksOf ms).Nodup := nodup_eraseDups

theorem ofRank_concat :
    ofRank (ms ++ [m]) n = ofRank ms n ++ if m.rank = n then [m] else [] := by
  by_cases h : m.rank = n <;> simp [ofRank, h]

theorem ranksOf_concat :
    ranksOf (ms ++ [m]) = ranksOf ms ++ if m.rank ∈ ranksOf ms then [] else [m.rank] := by
  simp only [ranksOf, List.map_append, List.map_singleton, eraseDups_concat, List.mem_eraseDups]

theorem ofRank_eq_nil_iff : ofRank ms n = [] ↔ n ∉ ranksOf ms := by
  simp [List.eq_nil_iff_forall_not_mem]

/-- The step of the loop, at some of the groups: a match is put behind those of its priority, or into
a group of its own behind all groups. -/
theorem addToGroups_map_ofRank (hm : m.IsRanked) (hms : ∀ a ∈ ms, a.IsRanked) (hnodup : ranks.Nodup)
    (hranks : ∀ n ∈ ranks, n ∈ ranksOf ms) :
    addToGroups m (ranks.map (ofRank ms)) =
      ranks.map (ofRank (ms ++ [m])) ++ if m.rank ∈ ranks then [] else [[m]] := by
  induction ranks with
  | nil => rfl
  | cons n ranks ih =>
      obtain ⟨hn, hothers⟩ := List.nodup_cons.1 hnodup
      obtain ⟨hfirst, hrest⟩ := List.forall_mem_cons.1 hranks
      have ih := ih hothers hrest
      rw [List.map_cons, List.map_cons]
      -- The loop compares the match with the first of the group, so there has to be one.
      cases hgroup : ofRank ms n with
      | nil => exact absurd hfirst (ofRank_eq_nil_iff.1 hgroup)
      | cons a others =>
          obtain ⟨ha, rfl⟩ := mem_ofRank.1 (hgroup ▸ List.mem_cons_self : a ∈ ofRank ms n)
          rw [addToGroups, equal_of_whole (hms a ha).whole?_eq hm.whole?_eq]
          by_cases h : a.rank = m.rank
          · have hkept : ranks.map (ofRank (ms ++ [m])) = ranks.map (ofRank ms) := by
              refine List.map_congr_left fun k hk => ?_
              have hk : m.rank ≠ k := fun hmk => hn (h.trans hmk ▸ hk)
              simp [ofRank_concat, hk]
            simp [h, hkept, ofRank_concat, ← hgroup]
          · simp [ih, ofRank_concat, hgroup, h, Ne.symm h]

theorem addToGroups_groupsOf (hm : m.IsRanked) (hms : ∀ a ∈ ms, a.IsRanked) :
    addToGroups m (groupsOf ms) = groupsOf (ms ++ [m]) := by
  rw [groupsOf, addToGroups_map_ofRank hm hms nodup_ranksOf fun _ => id, groupsOf, ranksOf_concat]
  by_cases h : m.rank ∈ ranksOf ms
  · simp [h]
  · simp [h, ofRank_concat, ofRank_eq_nil_iff.2 h]

/-- The loop, from the groups of the matches that are done. -/
theorem foldlM_addToGroups (hms : ∀ a ∈ before ++ after, a.IsRanked) :
    after.foldlM (fun groups m => do
      let _ ← m.priority.asKey
      return addToGroups m groups) (groupsOf before) =
        (.ok (groupsOf (before ++ after)) : Except Misuse _) := by
  induction after generalizing before with
  | nil => simp [pure_eq_ok]
  | cons m after ih =>
      have hm : m.IsRanked := hms m (by simp)
      have hbefore : ∀ a ∈ before, a.IsRanked := fun a ha => hms a (by simp [ha])
      rw [List.foldlM_cons, asKey_of_whole hm.whole?_eq, ok_bind, pure_eq_ok, ok_bind,
        addToGroups_groupsOf hm hbefore, ih (by simpa using hms), List.append_assoc]
      rfl

theorem groupByPriority_eq (hms : ∀ a ∈ ms, a.IsRanked) :
    groupByPriority ms = .ok (groupsOf ms) :=
  foldlM_addToGroups (by simpa using hms : ∀ a ∈ [] ++ ms, a.IsRanked)

/-! ## Shared priorities -/

/-- The priorities that two or more matches share, in the order in which they first come up. -/
def sharedRanksOf (ms : List RuleMatch) : List Int :=
  (ranksOf ms).filter fun n => 1 < (ofRank ms n).length

theorem mem_sharedRanksOf : n ∈ sharedRanksOf ms ↔ 1 < (ofRank ms n).length := by
  rw [sharedRanksOf, List.mem_filter, decide_eq_true_iff, and_iff_right_iff_imp]
  intro h
  rw [← not_not (a := n ∈ ranksOf ms), ← ofRank_eq_nil_iff]
  rintro hnil
  simp [hnil] at h

theorem nodup_sharedRanksOf : (sharedRanksOf ms).Nodup := nodup_ranksOf.filter _

theorem conflictsOf_eq (hms : ∀ a ∈ ms, a.IsRanked) :
    conflictsOf ms = .ok ((sharedRanksOf ms).map (ofRank ms)) := by
  rw [conflictsOf, groupByPriority_eq hms, ok_bind, groupsOf, List.filter_map]
  rfl

/-- The members of the groups are the matches with one of their priorities. -/
theorem flatten_map_ofRank_perm (hnodup : ranks.Nodup) :
    (ranks.map (ofRank ms)).flatten.Perm (ms.filter (·.rank ∈ ranks)) := by
  induction ranks with
  | nil => simp
  | cons n ranks ih =>
      obtain ⟨hn, hothers⟩ := List.nodup_cons.1 hnodup
      have hfirst : (ms.filter (·.rank ∈ n :: ranks)).filter (·.rank = n) = ofRank ms n := by
        rw [List.filter_filter]
        exact List.filter_congr fun a _ => by simp; tauto
      have hrest : (ms.filter (·.rank ∈ n :: ranks)).filter (fun a => !decide (a.rank = n)) =
          ms.filter (·.rank ∈ ranks) := by
        rw [List.filter_filter]
        refine List.filter_congr fun a _ => ?_
        by_cases ha : a.rank = n <;> simp [ha, hn]
      have hsplit := List.filter_append_perm (fun a => decide (a.rank = n))
        (ms.filter (·.rank ∈ n :: ranks))
      rw [hfirst, hrest] at hsplit
      exact ((ih hothers).append_left _).trans hsplit

theorem any_rank_ofRank {k : Int} (hk : k ∈ sharedRanksOf ms) :
    (ofRank ms k).any (·.rank = n) = (k == n) := by
  obtain ⟨a, ha⟩ := List.exists_mem_of_length_pos (Nat.zero_lt_of_lt (mem_sharedRanksOf.1 hk))
  rw [Bool.eq_iff_iff, List.any_eq_true, beq_iff_eq]
  constructor
  · rintro ⟨b, hb, hn⟩
    rw [← (mem_ofRank.1 hb).2, of_decide_eq_true hn]
  · rintro rfl
    exact ⟨a, ha, decide_eq_true (mem_ofRank.1 ha).2⟩

/-- What the conflicts among matches are: each group holds all matches of one priority, in their
order, and at least two; a priority that two or more matches share has one group and any other has
none; the groups stand in the order in which their priorities first come up; and together they hold
the matches that share their priority, each as often as it was found. -/
structure AreConflictsOf (groups : List (List RuleMatch)) (ms : List RuleMatch) : Prop where
  group_eq : ∀ group ∈ groups, ∃ n, group = ms.filter (·.rank = n) ∧ 2 ≤ group.length
  countP_eq : ∀ n, groups.countP (fun group => group.any (·.rank = n)) =
    if 2 ≤ ms.countP (·.rank = n) then 1 else 0
  ordered : groups.Pairwise fun g g' => ∀ a ∈ g, ∀ b ∈ g',
    (ms.map RuleMatch.rank).idxOf a.rank < (ms.map RuleMatch.rank).idxOf b.rank
  flatten_perm : groups.flatten.Perm (ms.filter fun a => 2 ≤ ms.countP (·.rank = a.rank))

theorem areConflictsOf_map_ofRank : AreConflictsOf ((sharedRanksOf ms).map (ofRank ms)) ms := by
  have hcount (n : Int) : n ∈ sharedRanksOf ms ↔ 2 ≤ ms.countP (·.rank = n) := by
    rw [mem_sharedRanksOf, List.countP_eq_length_filter]
    rfl
  refine ⟨fun group hgroup => ?_, fun n => ?_, ?_, ?_⟩
  · obtain ⟨n, hn, rfl⟩ := List.mem_map.1 hgroup
    exact ⟨n, rfl, mem_sharedRanksOf.1 hn⟩
  · have hany : (sharedRanksOf ms).countP ((fun group => group.any (·.rank = n)) ∘ ofRank ms) =
        (sharedRanksOf ms).count n :=
      List.countP_congr fun k hk => by simp [any_rank_ofRank hk]
    rw [List.countP_map, hany, nodup_sharedRanksOf.count]
    simp only [hcount]
  · refine List.pairwise_map.2 (pairwise_idxOf_eraseDups.filter _ |>.imp fun h a ha b hb => ?_)
    rwa [(mem_ofRank.1 ha).2, (mem_ofRank.1 hb).2]
  · refine (flatten_map_ofRank_perm nodup_sharedRanksOf).trans (.of_eq ?_)
    exact List.filter_congr fun a _ => by simp only [hcount]

/-! ## The conflicts among rules -/

theorem outcome_findConflicts_eq (hwhole : ∀ r ∈ rules, ∃ n, r.priority.whole? = some n)
    (h : (matchesOf text q rules).outcome = .ok found) :
    (findConflicts text q rules).outcome = .ok ((sharedRanksOf found).map (ofRank found)) := by
  rw [findConflicts, Attempt.outcome_bind, h, ok_bind, Attempt.outcome_ofExcept,
    conflictsOf_eq (isRanked_of_mem hwhole h)]
  rfl

theorem exists_findConflicts (hsound : ∀ r ∈ rules, r.IsSound) {o : Option RuleMatch}
    (h : (findBest text q rules).outcome = .ok o) :
    ∃ groups, (findConflicts text q rules).outcome = .ok groups := by
  obtain ⟨found, hfound, -⟩ := outcome_findBest_iff.1 h
  exact ⟨_, outcome_findConflicts_eq (fun r hr => (hsound r hr).exists_whole) hfound⟩

/-- Among rules with whole priorities that can all be evaluated, the conflicts are the groups of the
matches that share a priority. -/
theorem findConflicts_partitions (hwhole : ∀ r ∈ rules, ∃ n, r.priority.whole? = some n)
    (h : (matchesOf text q rules).outcome = .ok found) :
    ∃ groups, (findConflicts text q rules).outcome = .ok groups ∧ AreConflictsOf groups found :=
  ⟨_, outcome_findConflicts_eq hwhole h, areConflictsOf_map_ofRank⟩

/-- Of five matches, four share their priority with another; the group of the priority that comes up
first stands in front, though its number is the larger one. -/
theorem findConflicts_partitions_five :
    let rule := fun (id pattern : String) (priority : Int) =>
      ({ id := .text id, name := .text id, priority := .int priority,
         folder := { pattern := some pattern } } : Rule)
    let rules := [rule "r0" "Projects/**" 2, rule "r1" "Projects/*" 1, rule "r2" "**/Test" 2,
      rule "r3" "Projects/Test" 1, rule "r4" "Projects/T???" 3]
    let q : Query := { side := some .folder }
    (∀ r ∈ rules, ∃ n, r.priority.whole? = some n) ∧
      ∃ found groups, (matchesOf "Projects/Test" q rules).outcome = .ok found ∧ found.length = 5 ∧
        (findConflicts "Projects/Test" q rules).outcome = .ok groups ∧
        AreConflictsOf groups found ∧ groups.map (·.map fun m => m.pattern) =
          [["Projects/**", "**/Test"], ["Projects/*", "Projects/Test"]] := by
  intro rule rules q
  have hwhole : ∀ r ∈ rules, ∃ n, r.priority.whole? = some n := by
    simp [rules, rule, Value.whole?]
  have hfound : (matchesOf "Projects/Test" q rules).outcome.toOption.map List.length = some 5 := by
    decide +kernel
  have hgroups : (findConflicts "Projects/Test" q rules).outcome.toOption.map
      (·.map (·.map fun m => m.pattern)) =
        some [["Projects/**", "**/Test"], ["Projects/*", "Projects/Test"]] := by
    decide +kernel
  cases hmatches : (matchesOf "Projects/Test" q rules).outcome with
  | error stop => simp [hmatches, Except.toOption] at hfound
  | ok found =>
      obtain ⟨groups, hconflicts, hpartition⟩ := findConflicts_partitions hwhole hmatches
      rw [hmatches] at hfound
      rw [hconflicts] at hgroups
      exact ⟨hwhole, found, groups, rfl, by simpa [Except.toOption] using hfound, hconflicts,
        hpartition, by simpa [Except.toOption] using hgroups⟩

end FolderTag.Matching
