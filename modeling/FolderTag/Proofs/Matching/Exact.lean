import FolderTag.Proofs.Matching.Best
import FolderTag.Proofs.Matching.Confidence

/-! # Exact patterns

At its priority, a pattern that is the text itself is preferred to every pattern that is not
certain. A certain pattern in front of it is kept. -/

namespace FolderTag.Matching

open FolderTag.Document FolderTag.Number

variable {text : String} {q : Query} {r : Rule} {rules : List Rule}
variable {e m : RuleMatch} {found : List RuleMatch}

theorem confidence_of_evaluate (h : (evaluate text q r).outcome = .ok (some m)) :
    m.confidence = confidence text m.pattern := by
  obtain ⟨-, -, pattern, -, -, rfl⟩ := outcome_evaluate_eq_some_iff.1 h
  rfl

/-- The rule of a match stands behind the rules of the matches before it. -/
theorem exists_rules_of_matchesOf {before after : List RuleMatch}
    (h : (matchesOf text q rules).outcome = .ok (before ++ m :: after)) :
    ∃ first own last, rules = first ++ own :: last ∧
      (evaluate text q own).outcome = .ok (some m) ∧
      (matchesOf text q first).outcome = .ok before := by
  induction rules generalizing before with
  | nil =>
      have hnil := Except.ok.inj h
      simp at hnil
  | cons r rules ih =>
      obtain ⟨o, others, ho, hothers, hfound⟩ := outcome_matchesOf_cons_iff.1 h
      cases o with
      | none =>
          obtain rfl : before ++ m :: after = others := hfound
          obtain ⟨first, own, last, rfl, hown, hfirst⟩ := ih hothers
          exact ⟨r :: first, own, last, rfl, hown,
            outcome_matchesOf_cons_iff.2 ⟨none, before, ho, hfirst, rfl⟩⟩
      | some a =>
          cases before with
          | nil =>
              obtain ⟨rfl, rfl⟩ := List.cons.inj hfound
              exact ⟨[], r, rules, rfl, ho, rfl⟩
          | cons b before =>
              obtain ⟨rfl, rfl⟩ := List.cons.inj hfound
              obtain ⟨first, own, last, rfl, hown, hfirst⟩ := ih hothers
              exact ⟨r :: first, own, last, rfl, hown,
                outcome_matchesOf_cons_iff.2 ⟨some b, before, ho, hfirst, rfl⟩⟩

/-- A pattern that is the text loses to another one of its priority only if that one has six
slashes, is certain, and stands in front of every such pattern. -/
theorem findBest_prefers_exact (hwhole : ∀ r ∈ rules, ∃ n, r.priority.whole? = some n)
    (hr : r ∈ rules) (he : (evaluate text q r).outcome = .ok (some e)) (hexact : e.pattern = text)
    (hbest : (findBest text q rules).outcome = .ok (some m)) (hrank : m.rank = e.rank)
    (hother : m.pattern ≠ text) :
    6 ≤ m.pattern.toList.count '/' ∧ (m.confidence == 1.0) = true ∧
      ∃ first own last, rules = first ++ own :: last ∧
        (evaluate text q own).outcome = .ok (some m) ∧
        ∀ r' ∈ first, ∀ a, (evaluate text q r').outcome = .ok (some a) → a.rank = m.rank →
          a.pattern ≠ text := by
  obtain ⟨found, hfound, hbestOf⟩ := outcome_findBest_iff.1 hbest
  have hcomparable := isComparable_of_mem hwhole hfound
  have hm := (leads_of_bestOf hcomparable hbestOf).isBestOf hcomparable
  have hcertain : ∀ r ∈ rules, ∀ a, (evaluate text q r).outcome = .ok (some a) →
      a.pattern = text → a.confidence = 1.0 := by
    intro r hr a ha hpattern
    rw [confidence_of_evaluate ha, hpattern, confidence_self]
  obtain ⟨r', hr', heval⟩ := exists_evaluate_of_findBest hbest
  have hconfidence := confidence_of_evaluate heval
  have hnotLess : ¬ m.confidence < 1.0 := by
    have hnot := hm.not_confidence_lt e ((mem_of_matchesOf_iff hfound).2 ⟨r, hr, he⟩) hrank.symm
    rwa [hcertain r hr e he hexact] at hnot
  have hnotGreater : ¬ 1.0 < m.confidence := by
    rw [hconfidence]
    exact not_one_lt_confidence text m.pattern
  refine ⟨?_, ?_, ?_⟩
  · by_contra hdepth
    rw [hconfidence] at hnotLess
    exact hnotLess (confidence_lt_one hother (not_le.1 hdepth))
  · have hnumber := (hcomparable m (bestOf_mem hbestOf)).confident
    exact beq_of_not_lt hnumber isNaN_one hnotLess hnotGreater
  · obtain ⟨before, after, rfl, hbefore⟩ := hm.first
    obtain ⟨first, own, last, rfl, hown, hfirst⟩ := exists_rules_of_matchesOf hfound
    refine ⟨first, own, last, rfl, hown, ?_⟩
    intro r' hr' a ha hsame hpattern
    have hmem : a ∈ before := (mem_of_matchesOf_iff hfirst).2 ⟨r', hr', ha⟩
    rcases hbefore a hmem with hless | ⟨-, hless⟩
    · omega
    · rw [hcertain r' (by simp [hr']) a ha hpattern] at hless
      exact hnotGreater hless

theorem findBest_prefers_exact_deep :
    let rule := fun (id pattern : String) =>
      ({ id := .text id, name := .text id, priority := .int 1,
         folder := { pattern := some pattern } } : Rule)
    let rules := [rule "deep" "a/b/c/d/e/f/g/h/i/*", rule "exact" "a/b/c/d/e/f/g/h/i/j"]
    let q : Query := { side := some .folder }
    (∀ r ∈ rules, ∃ n, r.priority.whole? = some n) ∧
      ∃ r ∈ rules, ∃ e m, (evaluate "a/b/c/d/e/f/g/h/i/j" q r).outcome = .ok (some e) ∧
        e.pattern = "a/b/c/d/e/f/g/h/i/j" ∧
        (findBest "a/b/c/d/e/f/g/h/i/j" q rules).outcome = .ok (some m) ∧ m.rank = e.rank ∧
        m.pattern ≠ "a/b/c/d/e/f/g/h/i/j" ∧ 6 ≤ m.pattern.toList.count '/' ∧
        (m.confidence == 1.0) = true := by
  intro rule rules q
  have hwhole : ∀ r ∈ rules, ∃ n, r.priority.whole? = some n := by
    simp [rules, rule, Value.whole?]
  have hexact : (evaluate "a/b/c/d/e/f/g/h/i/j" q
      (rule "exact" "a/b/c/d/e/f/g/h/i/j")).outcome.toOption.join.map
        (fun m => (m.pattern, m.rank)) = some ("a/b/c/d/e/f/g/h/i/j", 1) := by
    decide +kernel
  have hbest : (findBest "a/b/c/d/e/f/g/h/i/j" q rules).outcome.toOption.join.map
      (fun m => (m.pattern, m.rank)) = some ("a/b/c/d/e/f/g/h/i/*", 1) := by
    decide +kernel
  obtain ⟨e, he, hpattern⟩ := exists_ok_of_join hexact
  obtain ⟨m, hm, hother⟩ := exists_ok_of_join hbest
  simp only [Prod.mk.injEq] at hpattern hother
  have hrank : m.rank = e.rank := hother.2.trans hpattern.2.symm
  have hne : m.pattern ≠ "a/b/c/d/e/f/g/h/i/j" := by
    rw [hother.1]
    decide
  have hmem : rule "exact" "a/b/c/d/e/f/g/h/i/j" ∈ rules := by simp [rules]
  obtain ⟨hdepth, hcertain, -⟩ := findBest_prefers_exact hwhole hmem he hpattern.1 hm hrank hne
  exact ⟨hwhole, _, hmem, e, m, he, hpattern.1, hm, hrank, hne, hdepth, hcertain⟩

/-- With nine slashes, a wildcard costs nothing: the rule in front is kept. -/
theorem findBest_keeps_deep :
    let rule := fun (id pattern : String) =>
      ({ id := .text id, name := .text id, priority := .int 1,
         folder := { pattern := some pattern } } : Rule)
    let deep := rule "deep" "a/b/c/d/e/f/g/h/i/*"
    let exact := rule "exact" "a/b/c/d/e/f/g/h/i/j"
    let q : Query := { side := some .folder }
    (evaluate "a/b/c/d/e/f/g/h/i/j" q exact).outcome.toOption.join.map
        (fun m => (m.pattern, m.rank)) = some ("a/b/c/d/e/f/g/h/i/j", 1) ∧
      (findBest "a/b/c/d/e/f/g/h/i/j" q [deep, exact]).outcome.toOption.join.map
        (fun m => (m.pattern, m.rank)) = some ("a/b/c/d/e/f/g/h/i/*", 1) ∧
      (findBest "a/b/c/d/e/f/g/h/i/j" q [exact, deep]).outcome.toOption.join.map
        (fun m => (m.pattern, m.rank)) = some ("a/b/c/d/e/f/g/h/i/j", 1) := by
  decide +kernel

end FolderTag.Matching
