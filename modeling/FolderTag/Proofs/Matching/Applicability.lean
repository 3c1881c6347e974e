import FolderTag.Matching.Applicability
import FolderTag.Proofs.Matching.Selection

/-! # What rules for a direction match

A rule that may not be used in a direction is passed over by every query in that direction. So the
rules can be chosen beforehand: the same matches are found, and the same is selected. -/

namespace FolderTag.Matching

open FolderTag.Document FolderTag.Log FolderTag.Pattern

variable {text : String} {q : Query} {r : Rule} {rules : List Rule} {side : Side} {d : Direction}

/-! ## Leaving rules out -/

theorem outcome_matchesOf_cons :
    (matchesOf text q (r :: rules)).outcome =
      (evaluate text q r).outcome >>= fun first =>
        (matchesOf text q rules).outcome >>= fun others => .ok (first.toList ++ others) := by
  simp [matchesOf]

/-- Rules without a match can be left out, also where another rule cannot be evaluated. -/
theorem outcome_matchesOf_filter {p : Rule → Bool}
    (h : ∀ r ∈ rules, p r = false → (evaluate text q r).outcome = .ok none) :
    (matchesOf text q (rules.filter p)).outcome = (matchesOf text q rules).outcome := by
  induction rules with
  | nil => rfl
  | cons r rules ih =>
      rw [List.forall_mem_cons] at h
      rw [List.filter_cons, outcome_matchesOf_cons]
      cases hp : p r with
      | true => rw [if_pos rfl, outcome_matchesOf_cons, ih h.2]
      | false =>
          rw [if_neg Bool.false_ne_true, ih h.2, h.1 hp, ok_bind]
          cases (matchesOf text q rules).outcome <;> rfl

/-- The same matches are found among two lists of rules, and the same is selected. -/
structure SelectAlike (text : String) (q : Query) (others rules : List Rule) : Prop where
  matchesOf_eq : (matchesOf text q others).outcome = (matchesOf text q rules).outcome
  findBest_eq : (findBest text q others).outcome = (findBest text q rules).outcome
  findConflicts_eq : (findConflicts text q others).outcome = (findConflicts text q rules).outcome

/-- What is selected depends on the matches alone. -/
theorem selectAlike_of_matchesOf {others : List Rule}
    (h : (matchesOf text q others).outcome = (matchesOf text q rules).outcome) :
    SelectAlike text q others rules :=
  ⟨h, by simp [findBest, h], by simp [findConflicts, h]⟩

/-! ## Rules for a direction -/

/-- What is asked of a side in a direction, with disabled rules left out. -/
def Query.usable (side : Side) (d : Direction) : Query := { side := some side, direction := some d }

theorem admits_usable : (Query.usable side d).admits r.direction = isApplicable r d := rfl

/-- A rule that is not usable is passed over. -/
theorem outcome_evaluate_of_not_usable (hdirection : r.direction ≠ none)
    (h : (r.enabled.isSet && (r.endpoint side).usedPattern?.isSome && isApplicable r d) = false) :
    (evaluate text (Query.usable side d) r).outcome = .ok none := by
  obtain ⟨own, hown⟩ := Option.ne_none_iff_exists'.1 hdirection
  rw [evaluate, admits_usable]
  cases henabled : r.enabled.isSet with
  | false => rfl
  | true =>
      cases happlicable : isApplicable r d with
      | false =>
          rw [hown]
          rfl
      | true =>
          have hpattern : (r.endpoint side).usedPattern? = none := by
            simpa [henabled, happlicable] using h
          change ((Query.usable side d).endpoint r).usedPattern? = none at hpattern
          rw [hpattern]
          rfl

theorem selectAlike_usableRules (h : ∀ r ∈ rules, r.direction ≠ none) :
    SelectAlike text (Query.usable side d) (usableRules side d rules) rules :=
  selectAlike_of_matchesOf <|
    outcome_matchesOf_filter fun r hr => outcome_evaluate_of_not_usable (h r hr)

/-- The rules for folders select what all rules select for a folder that is to become a tag, and the
rules for tags what all rules select for a tag that is to become a folder, as long as every rule
says in which direction it may be used. -/
theorem selectAlike_folderRules_tagRules (h : ∀ r ∈ rules, r.direction ≠ none) :
    SelectAlike text (Query.usable .folder .folderToTag) (folderRules rules) rules ∧
      SelectAlike text (Query.usable .tag .tagToFolder) (tagRules rules) rules :=
  ⟨selectAlike_usableRules h, selectAlike_usableRules h⟩

/-- Of a rule for both ways, a rule for tags, a disabled rule and a rule without patterns, the first
is a rule for folders and the first two are rules for tags. -/
theorem selectAlike_folderRules_tagRules_four :
    let projects : Endpoint := { pattern := some "Projects/*" }
    let project : Endpoint := { pattern := some "project/*" }
    let first : Rule := { id := .text "a", name := .text "A", folder := projects, tag := project }
    let second : Rule := { first with id := .text "b", direction := some .tagToFolder }
    let rules := [first, second, { first with id := .text "c", enabled := .bool false },
      { id := .text "d", name := .text "D" }]
    (∀ r ∈ rules, r.direction ≠ none) ∧
      folderRules rules = [first] ∧ tagRules rules = [first, second] ∧
      SelectAlike "Projects/Alpha" (Query.usable .folder .folderToTag) [first] rules ∧
      SelectAlike "Projects/Alpha" (Query.usable .tag .tagToFolder) [first, second] rules := by
  intro projects project first second rules
  have hdirection : ∀ r ∈ rules, r.direction ≠ none := by simp [rules, first, second]
  exact ⟨hdirection, rfl, rfl, selectAlike_folderRules_tagRules hdirection⟩

end FolderTag.Matching
