import FolderTag.Matching.Selection
import FolderTag.Proofs.Outcome

/-! # What is selected

The best match is one of the matches, and there is one as soon as there is a match. -/

namespace FolderTag.Matching

open FolderTag.Document FolderTag.Log FolderTag.Pattern

variable {text : String} {q : Query} {r : Rule} {rules : List Rule} {m best : RuleMatch}
variable {ms found : List RuleMatch}

/-! ## Matches -/

/-- A rule that takes part matches where its pattern does. -/
theorem outcome_evaluate_of_isMatch {pattern : String}
    (henabled : r.enabled.isSet = true ∨ q.includeDisabled = true)
    (hadmits : q.admits r.direction = true) (hpattern : (q.endpoint r).usedPattern? = some pattern)
    (h : (isMatch text pattern "").outcome = .ok true) :
    (evaluate text q r).outcome =
      .ok (some { rule := r, side := q.side, pattern, confidence := confidence text pattern }) := by
  have hused : (!r.enabled.isSet && !q.includeDisabled) = false := by
    rcases henabled with h | h <;> simp [h]
  rw [evaluate, hused, hadmits, hpattern]
  simp [h]

/-- A rule has a match exactly when it takes part, may be used in the direction that is asked for,
and has a pattern that the text matches. -/
theorem outcome_evaluate_eq_some_iff :
    (evaluate text q r).outcome = .ok (some m) ↔
      (r.enabled.isSet = true ∨ q.includeDisabled = true) ∧ q.admits r.direction = true ∧
      ∃ pattern, (q.endpoint r).usedPattern? = some pattern ∧
        (isMatch text pattern "").outcome = .ok true ∧
        m = { rule := r, side := q.side, pattern, confidence := confidence text pattern } := by
  constructor
  · intro h
    rw [evaluate] at h
    split at h
    · simp at h
    · rename_i hused
      split at h
      · cases hdirection : choiceName r.direction <;> simp [hdirection] at h
      · rename_i hadmits
        split at h
        · cases hside : choiceName q.side <;> simp [hside] at h
        · rename_i pattern hpattern
          rw [Attempt.outcome_bind, bind_eq_ok_iff] at h
          obtain ⟨matched, hmatched, h⟩ := h
          cases matched with
          | false => simp at h
          | true =>
              simp only [ite_true, Attempt.outcome_bind, Attempt.outcome_lift,
                Attempt.outcome_pure, ok_bind, Except.ok.injEq, Option.some.injEq] at h
              refine ⟨?_, by simpa using hadmits, pattern, hpattern, hmatched, h.symm⟩
              simpa [Decidable.or_iff_not_imp_left] using hused
  · rintro ⟨henabled, hadmits, pattern, hpattern, hmatched, rfl⟩
    exact outcome_evaluate_of_isMatch henabled hadmits hpattern hmatched

/-- A match comes from a pattern that the text matches. -/
theorem isMatch_of_evaluate (h : (evaluate text q r).outcome = .ok (some m)) :
    m.rule = r ∧ ∃ pattern, (q.endpoint r).usedPattern? = some pattern ∧
      (isMatch text pattern "").outcome = .ok true := by
  obtain ⟨-, -, pattern, hpattern, hmatched, rfl⟩ := outcome_evaluate_eq_some_iff.1 h
  exact ⟨rfl, pattern, hpattern, hmatched⟩

theorem outcome_matchesOf_cons_iff :
    (matchesOf text q (r :: rules)).outcome = .ok found ↔
      ∃ first others, (evaluate text q r).outcome = .ok first ∧
        (matchesOf text q rules).outcome = .ok others ∧ found = first.toList ++ others := by
  rw [matchesOf, Attempt.outcome_bind, bind_eq_ok_iff]
  simp only [Attempt.outcome_bind, bind_eq_ok_iff, Attempt.outcome_pure, Except.ok.injEq]
  constructor
  · rintro ⟨first, hfirst, others, hothers, rfl⟩
    exact ⟨first, others, hfirst, hothers, rfl⟩
  · rintro ⟨first, others, hfirst, hothers, rfl⟩
    exact ⟨first, hfirst, others, hothers, rfl⟩

/-- The match that a rule has, if its evaluation comes to an end with one. -/
def verdict? (text : String) (q : Query) (r : Rule) : Option RuleMatch :=
  match (evaluate text q r).outcome with
  | .ok o => o
  | .error _ => none

theorem verdict?_of_evaluate {o : Option RuleMatch} (h : (evaluate text q r).outcome = .ok o) :
    verdict? text q r = o := by
  rw [verdict?, h]

theorem verdict?_eq_some_iff :
    verdict? text q r = some m ↔ (evaluate text q r).outcome = .ok (some m) := by
  rw [verdict?]
  split
  · simp_all
  · simp_all

/-- The matches are those of the single rules, as long as each of them can be evaluated. -/
theorem outcome_matchesOf_iff :
    (matchesOf text q rules).outcome = .ok found ↔
      (∀ r ∈ rules, ∃ o, (evaluate text q r).outcome = .ok o) ∧
        found = rules.filterMap (verdict? text q) := by
  induction rules generalizing found with
  | nil => simp [matchesOf, eq_comm]
  | cons r rules ih =>
      rw [outcome_matchesOf_cons_iff, List.forall_mem_cons]
      constructor
      · rintro ⟨first, others, hfirst, hothers, rfl⟩
        obtain ⟨hrules, rfl⟩ := ih.1 hothers
        refine ⟨⟨⟨first, hfirst⟩, hrules⟩, ?_⟩
        cases first <;> simp [verdict?_of_evaluate hfirst]
      · rintro ⟨⟨⟨first, hfirst⟩, hrules⟩, rfl⟩
        refine ⟨first, _, hfirst, ih.2 ⟨hrules, rfl⟩, ?_⟩
        cases first <;> simp [verdict?_of_evaluate hfirst]

theorem mem_of_matchesOf_iff (h : (matchesOf text q rules).outcome = .ok found) :
    m ∈ found ↔ ∃ r ∈ rules, (evaluate text q r).outcome = .ok (some m) := by
  obtain ⟨-, rfl⟩ := outcome_matchesOf_iff.1 h
  simp only [List.mem_filterMap, verdict?_eq_some_iff]

/-- There is no match exactly when no rule has one. -/
theorem outcome_matchesOf_eq_nil_iff :
    (matchesOf text q rules).outcome = .ok [] ↔
      ∀ r ∈ rules, (evaluate text q r).outcome = .ok none := by
  rw [outcome_matchesOf_iff]
  constructor
  · rintro ⟨hrules, hnil⟩ r hr
    obtain ⟨o, ho⟩ := hrules r hr
    rw [ho, ← verdict?_of_evaluate ho, List.filterMap_eq_nil_iff.1 hnil.symm r hr]
  · intro h
    refine ⟨fun r hr => ⟨none, h r hr⟩, ?_⟩
    exact (List.filterMap_eq_nil_iff.2 fun r hr => verdict?_of_evaluate (h r hr)).symm

/-! ## The best match -/

theorem bestFrom_mem (h : bestFrom best ms = .ok m) : m ∈ best :: ms := by
  induction ms generalizing best with
  | nil =>
      cases h
      exact List.mem_cons_self
  | cons a ms ih =>
      rw [bestFrom, bind_eq_ok_iff] at h
      obtain ⟨better, -, h⟩ := h
      cases better with
      | false =>
          rcases List.mem_cons.1 (ih h) with rfl | hm
          · exact List.mem_cons_self
          · exact List.mem_cons_of_mem best (List.mem_cons_of_mem a hm)
      | true => exact List.mem_cons_of_mem best (ih h)

theorem bestOf_mem (h : bestOf ms = .ok (some m)) : m ∈ ms := by
  cases ms with
  | nil => cases h
  | cons a ms =>
      rw [bestOf, bind_eq_ok_iff] at h
      obtain ⟨b, hb, h⟩ := h
      cases h
      exact bestFrom_mem hb

theorem bestOf_eq_none_iff : bestOf ms = .ok none ↔ ms = [] := by
  cases ms with
  | nil => simp [bestOf]
  | cons a ms =>
      rw [bestOf, bind_eq_ok_iff]
      simp

theorem outcome_findBest_iff {o : Option RuleMatch} :
    (findBest text q rules).outcome = .ok o ↔
      ∃ found, (matchesOf text q rules).outcome = .ok found ∧ bestOf found = .ok o := by
  simp [findBest, bind_eq_ok_iff, checkStored, mapError_eq_ok_iff]

/-- Nothing is selected exactly when no rule has a match. -/
theorem outcome_findBest_eq_none_iff :
    (findBest text q rules).outcome = .ok none ↔
      ∀ r ∈ rules, (evaluate text q r).outcome = .ok none := by
  rw [outcome_findBest_iff, ← outcome_matchesOf_eq_nil_iff]
  constructor
  · rintro ⟨found, hfound, hbest⟩
    rwa [bestOf_eq_none_iff.1 hbest] at hfound
  · intro h
    exact ⟨[], h, rfl⟩

/-- What is selected is the match of one of the rules. -/
theorem exists_evaluate_of_findBest (h : (findBest text q rules).outcome = .ok (some m)) :
    ∃ r ∈ rules, (evaluate text q r).outcome = .ok (some m) := by
  obtain ⟨found, hfound, hbest⟩ := outcome_findBest_iff.1 h
  exact (mem_of_matchesOf_iff hfound).1 (bestOf_mem hbest)

/-- Without a match there is no conflict. -/
theorem outcome_findConflicts_of_none (h : (findBest text q rules).outcome = .ok none) :
    (findConflicts text q rules).outcome = .ok [] := by
  rw [outcome_findBest_eq_none_iff, ← outcome_matchesOf_eq_nil_iff] at h
  rw [findConflicts, Attempt.outcome_bind, h]
  rfl

end FolderTag.Matching
