import FolderTag.Proofs.Matching.Applicability
import FolderTag.Proofs.Matching.Completion
import FolderTag.Proofs.Number.Comparison
import Mathlib.Data.List.Nodup

/-! # The best match

Among matches with whole priorities, the one that is selected has the least priority number and,
among those that share it, the highest confidence; of several such matches it is the first. Which
match that is does not depend on the rules without a match, nor on the order of the rules, unless
two matches tie. -/

namespace FolderTag.Matching

open FolderTag.Document FolderTag.Log FolderTag.Pattern FolderTag.Number

variable {text : String} {q : Query} {r : Rule} {rules others : List Rule}
variable {a b m best : RuleMatch} {ms found : List RuleMatch}

/-! ## Confidence -/

/-- A confidence is a number, whatever was computed before it is held between none and full. -/
theorem isNaN_confidence (text pattern : String) : (confidence text pattern).isNaN = false := by
  rw [confidence]
  split
  · decide +kernel
  · rw [greater]
    split
    · rename_i h
      exact isNaN_right_of_lt h
    · decide +kernel

/-! ## Where a match stands -/

namespace RuleMatch

/-- The place of a match among others: by its priority number, then the more confident in front. -/
def standing (m : RuleMatch) : ℤ ×ₗ (ℤ ×ₗ ℤ ×ₗ ℤ)ᵒᵈ :=
  toLex (m.rank, OrderDual.toDual (place m.confidence))

/-- Whether a match has a whole priority and a confidence that is a number. -/
structure IsComparable (m : RuleMatch) : Prop where
  ranked : m.IsRanked
  confident : m.confidence.isNaN = false

theorem standing_lt_iff (ha : a.IsComparable) (hb : b.IsComparable) :
    a.standing < b.standing ↔
      a.rank < b.rank ∨ a.rank = b.rank ∧ b.confidence < a.confidence := by
  rw [standing, standing, Prod.Lex.toLex_lt_toLex, OrderDual.toDual_lt_toDual,
    lt_iff_place_lt hb.confident ha.confident]

theorem standing_eq_iff (ha : a.IsComparable) (hb : b.IsComparable) :
    a.standing = b.standing ↔ a.rank = b.rank ∧ (a.confidence == b.confidence) = true := by
  rw [standing, standing, toLex_inj, Prod.mk.injEq, OrderDual.toDual_inj,
    beq_iff_place_eq ha.confident hb.confident]

end RuleMatch

/-- Of two matches that can be compared, the better one is the one that stands in front. -/
theorem precedes_eq (ha : a.IsComparable) (hb : b.IsComparable) :
    a.precedes b = .ok (decide (a.standing < b.standing)) := by
  have hstanding := RuleMatch.standing_lt_iff ha hb
  have hrank := equal_of_whole ha.ranked.whole?_eq hb.ranked.whole?_eq
  have hbefore := before_of_whole ha.ranked.whole?_eq hb.ranked.whole?_eq
  rw [RuleMatch.precedes, hrank]
  by_cases h : a.rank = b.rank
  · simp [h, hstanding]
  · simp [h, hstanding, hbefore, beq_eq_decide, compare_lt_iff_lt]

/-! ## The first of the foremost -/

/-- A match stands in front of all matches before it, and no match behind it stands in front of
it. -/
def RuleMatch.Leads (m : RuleMatch) (ms : List RuleMatch) : Prop :=
  ∃ before after, ms = before ++ m :: after ∧ (∀ a ∈ before, m.standing < a.standing) ∧
    ∀ a ∈ after, m.standing ≤ a.standing

theorem RuleMatch.Leads.standing_le (h : m.Leads ms) : ∀ a ∈ ms, m.standing ≤ a.standing := by
  obtain ⟨before, after, rfl, hbefore, hafter⟩ := h
  intro a ha
  rcases List.mem_append.1 ha with ha | ha
  · exact (hbefore a ha).le
  · rcases List.mem_cons.1 ha with rfl | ha
    · exact le_rfl
    · exact hafter a ha

theorem leads_of_bestFrom (hms : ∀ a ∈ best :: ms, a.IsComparable) (h : bestFrom best ms = .ok m) :
    m.Leads (best :: ms) := by
  induction ms generalizing best with
  | nil =>
      cases h
      exact ⟨[], [], rfl, by simp, by simp⟩
  | cons a ms ih =>
      obtain ⟨hbest, ha, hms⟩ : best.IsComparable ∧ a.IsComparable ∧ ∀ b ∈ ms, b.IsComparable := by
        simpa using hms
      rw [bestFrom, precedes_eq ha hbest, ok_bind] at h
      -- The one that stays leads `a :: ms` or `best :: ms`; the other has to find its place there.
      by_cases hprecedes : a.standing < best.standing
      · have hleads : m.Leads (a :: ms) := ih (by simpa using ⟨ha, hms⟩) (by simpa [hprecedes] using h)
        have hm : m.standing < best.standing :=
          (hleads.standing_le a List.mem_cons_self).trans_lt hprecedes
        obtain ⟨before, after, hsplit, hbefore, hafter⟩ := hleads
        exact ⟨best :: before, after, by rw [hsplit]; rfl, by simpa using ⟨hm, hbefore⟩, hafter⟩
      · have hleads : m.Leads (best :: ms) :=
          ih (by simpa using ⟨hbest, hms⟩) (by simpa [hprecedes] using h)
        have hstays : best.standing ≤ a.standing := not_lt.1 hprecedes
        obtain ⟨before, after, hsplit, hbefore, hafter⟩ := hleads
        cases before with
        | nil =>
            obtain ⟨rfl, rfl⟩ := List.cons.inj hsplit
            exact ⟨[], a :: ms, rfl, by simp, by simpa using ⟨hstays, hafter⟩⟩
        | cons first before =>
            obtain ⟨rfl, rfl⟩ := List.cons.inj hsplit
            obtain ⟨hfirst, hbefore⟩ := List.forall_mem_cons.1 hbefore
            refine ⟨best :: a :: before, after, rfl, ?_, hafter⟩
            simpa using ⟨hfirst, hfirst.trans_le hstays, hbefore⟩

/-- The match that is selected leads all matches. -/
theorem leads_of_bestOf (hms : ∀ a ∈ ms, a.IsComparable) (h : bestOf ms = .ok (some m)) :
    m.Leads ms := by
  cases ms with
  | nil => cases h
  | cons a ms =>
      obtain ⟨b, hb, h⟩ := bind_eq_ok_iff.1 h
      cases h
      exact leads_of_bestFrom hms hb

/-- What is selected stays the same in another order, unless two matches stand at one place. -/
theorem bestOf_of_perm {o : Option RuleMatch} {ms' : List RuleMatch}
    (hms : ∀ a ∈ ms, a.IsComparable) (hperm : ms'.Perm ms)
    (hapart : (ms.map RuleMatch.standing).Nodup) (h : bestOf ms = .ok o) :
    bestOf ms' = .ok o := by
  have hms' : ∀ a ∈ ms', a.IsComparable := fun a ha => hms a (hperm.mem_iff.1 ha)
  obtain ⟨o', ho'⟩ := exists_bestOf fun a ha => (hms' a ha).ranked
  rw [ho']
  cases o with
  | none =>
      obtain rfl := bestOf_eq_none_iff.1 h
      rw [← ho', hperm.eq_nil]
      rfl
  | some m =>
      cases o' with
      | none =>
          obtain rfl := bestOf_eq_none_iff.1 ho'
          rw [hperm.symm.eq_nil] at h
          cases h
      | some m' =>
          have hm : m ∈ ms := bestOf_mem h
          have hm' : m' ∈ ms := hperm.mem_iff.1 (bestOf_mem ho')
          have hsame : m.standing = m'.standing := le_antisymm
            ((leads_of_bestOf hms h).standing_le m' hm')
            ((leads_of_bestOf hms' ho').standing_le m (hperm.mem_iff.2 hm))
          rw [List.inj_on_of_nodup_map hapart hm hm' hsame]

/-! ## The best match among rules -/

/-- What the best of some matches is: no match has a smaller priority number, none of its priority
has a higher confidence, and every match before it is worse. -/
structure RuleMatch.IsBestOf (m : RuleMatch) (ms : List RuleMatch) : Prop where
  rank_le : ∀ a ∈ ms, m.rank ≤ a.rank
  not_confidence_lt : ∀ a ∈ ms, a.rank = m.rank → ¬ m.confidence < a.confidence
  first : ∃ before after, ms = before ++ m :: after ∧
    ∀ a ∈ before, m.rank < a.rank ∨ m.rank = a.rank ∧ a.confidence < m.confidence

theorem RuleMatch.Leads.isBestOf (h : m.Leads ms) (hms : ∀ a ∈ ms, a.IsComparable) :
    m.IsBestOf ms := by
  have hle := h.standing_le
  obtain ⟨before, after, hsplit, hbefore, -⟩ := h
  have hm : m.IsComparable := hms m (by simp [hsplit])
  have hbetter : ∀ a ∈ ms, ¬ (a.rank < m.rank ∨ a.rank = m.rank ∧ m.confidence < a.confidence) := by
    intro a ha
    rw [← RuleMatch.standing_lt_iff (hms a ha) hm]
    exact (hle a ha).not_gt
  refine ⟨fun a ha => ?_, fun a ha hrank hconfidence => ?_, before, after, hsplit, fun a ha => ?_⟩
  · exact not_lt.1 fun hrank => hbetter a ha (.inl hrank)
  · exact hbetter a ha (.inr ⟨hrank, hconfidence⟩)
  · exact (RuleMatch.standing_lt_iff hm (hms a (by simp [hsplit, ha]))).1 (hbefore a ha)

/-- Two matches tie if they share their priority and their confidence. -/
def RuleMatch.Ties (a b : RuleMatch) : Prop :=
  a.rank = b.rank ∧ (a.confidence == b.confidence) = true

theorem isComparable_of_mem (hwhole : ∀ r ∈ rules, ∃ n, r.priority.whole? = some n)
    (h : (matchesOf text q rules).outcome = .ok found) : ∀ m ∈ found, m.IsComparable := by
  intro m hm
  refine ⟨isRanked_of_mem hwhole h m hm, ?_⟩
  obtain ⟨r, -, heval⟩ := (mem_of_matchesOf_iff h).1 hm
  obtain ⟨-, -, pattern, -, -, rfl⟩ := outcome_evaluate_eq_some_iff.1 heval
  exact isNaN_confidence text pattern

theorem matchesOf_of_perm (hperm : others.Perm rules)
    (h : (matchesOf text q rules).outcome = .ok found) :
    ∃ found', (matchesOf text q others).outcome = .ok found' ∧ found'.Perm found := by
  obtain ⟨hrules, rfl⟩ := outcome_matchesOf_iff.1 h
  refine ⟨others.filterMap (verdict? text q), outcome_matchesOf_iff.2 ⟨?_, rfl⟩, hperm.filterMap _⟩
  exact fun r hr => hrules r (hperm.mem_iff.1 hr)

/-- Among rules with whole priorities that can all be evaluated, nothing is selected exactly when no
rule has a match, and otherwise the best of all matches is. Leaving out rules without a match
changes nothing, and neither does another order of the rules, as long as no two matches tie. -/
theorem findBest_selects (hwhole : ∀ r ∈ rules, ∃ n, r.priority.whole? = some n)
    (h : (matchesOf text q rules).outcome = .ok found) :
    ∃ o, (findBest text q rules).outcome = .ok o ∧
      (o = none ↔ ∀ r ∈ rules, (evaluate text q r).outcome = .ok none) ∧
      (∀ m, o = some m → m.IsBestOf found) ∧
      (∀ keep : Rule → Bool,
        (∀ r ∈ rules, keep r = false → (evaluate text q r).outcome = .ok none) →
          (findBest text q (rules.filter keep)).outcome = .ok o) ∧
      ((found.Pairwise fun a b => ¬ a.Ties b) →
        ∀ others, others.Perm rules → (findBest text q others).outcome = .ok o) := by
  have hfound := isComparable_of_mem hwhole h
  obtain ⟨o, ho⟩ := exists_bestOf fun a ha => (hfound a ha).ranked
  have hbest : (findBest text q rules).outcome = .ok o := outcome_findBest_iff.2 ⟨found, h, ho⟩
  refine ⟨o, hbest, ?_, ?_, ?_, ?_⟩
  · rw [← outcome_findBest_eq_none_iff, hbest, Except.ok.injEq]
  · rintro m rfl
    exact (leads_of_bestOf hfound ho).isBestOf hfound
  · intro keep hkeep
    rw [(selectAlike_of_matchesOf (outcome_matchesOf_filter hkeep)).findBest_eq, hbest]
  · intro hties others hperm
    obtain ⟨found', hfound', hperm'⟩ := matchesOf_of_perm hperm h
    refine outcome_findBest_iff.2 ⟨found', hfound', bestOf_of_perm hfound hperm' ?_ ho⟩
    refine List.pairwise_map.2 (hties.imp_of_mem fun ha hb hties => ?_)
    rwa [Ne, RuleMatch.standing_eq_iff (hfound _ ha) (hfound _ hb)]

/-- Three of four rules match; the narrow pattern is preferred to the wide one of its priority, and
both to the match with the larger number. -/
theorem findBest_selects_specific :
    let rule := fun (id pattern : String) (priority : Int) =>
      ({ id := .text id, name := .text id, priority := .int priority,
         folder := { pattern := some pattern } } : Rule)
    let rules := [rule "broad" "Projects/**" 2, rule "generic" "Projects/*" 1,
      rule "other" "Areas/*" 0, rule "specific" "Projects/Test" 1]
    let q : Query := { side := some .folder }
    (∀ r ∈ rules, ∃ n, r.priority.whole? = some n) ∧
      ∃ found m, (matchesOf "Projects/Test" q rules).outcome = .ok found ∧ found.length = 3 ∧
        (findBest "Projects/Test" q rules).outcome = .ok (some m) ∧ m.IsBestOf found ∧
        m.pattern = "Projects/Test" := by
  intro rule rules q
  have hwhole : ∀ r ∈ rules, ∃ n, r.priority.whole? = some n := by
    simp [rules, rule, Value.whole?]
  have hfound : (matchesOf "Projects/Test" q rules).outcome.toOption.map List.length = some 3 := by
    decide +kernel
  have hpattern : (findBest "Projects/Test" q rules).outcome.toOption.join.map (·.pattern) =
      some "Projects/Test" := by
    decide +kernel
  cases hmatches : (matchesOf "Projects/Test" q rules).outcome with
  | error stop => simp [hmatches, Except.toOption] at hfound
  | ok found =>
      obtain ⟨o, ho, -, hbest, -⟩ := findBest_selects hwhole hmatches
      rw [ho] at hpattern
      rw [hmatches] at hfound
      obtain ⟨m, rfl, hm⟩ := Option.map_eq_some_iff.1 hpattern
      exact ⟨hwhole, found, m, rfl, by simpa [Except.toOption] using hfound, ho, hbest m rfl, hm⟩

end FolderTag.Matching
