import FolderTag.Mapping.Mapper
import FolderTag.Proofs.Mapping.Conversion
import FolderTag.Proofs.Matching.Selection
import FolderTag.Proofs.Pattern.GlobLanguage

/-! # What mapping a folder says

The rule of a mapping is the one that was selected, its tag is the tag of that rule, and a rule
fails only where there is nothing to put into a tag. -/

namespace FolderTag.Mapping

open FolderTag.Document FolderTag.Log FolderTag.Matching FolderTag.Pattern

variable {m : Mapper} {path : String} {mapped : Mapped} {r : Rule} {v : String}

/-- The pattern that selected a rule is found again when the tag is made. -/
theorem folderMatch_of_findBest {best : RuleMatch}
    (h : (findBest path (m.query .folder .folderToTag) m.rules).outcome = .ok (some best)) :
    ∃ part, folderMatch best.rule path = .ok (some part) := by
  obtain ⟨r, -, heval⟩ := exists_evaluate_of_findBest h
  obtain ⟨rfl, pattern, hpattern, hmatch⟩ := isMatch_of_evaluate heval
  exact folderMatch_of_isMatch hpattern hmatch

section Tag

variable {preserve : Bool} {part : String} (hpart : folderMatch r path = .ok (some part))

include hpart

/-- A tag begins with a mark. -/
theorem head?_of_tagOfFolder (h : (tagOfFolder r preserve path).outcome = .ok (some v)) :
    v.toList.head? = some '#' := by
  rw [outcome_tagOfFolder preserve hpart, Except.ok.injEq] at h
  split at h
  · cases h
  · rw [Option.some.injEq] at h
    rw [← h, String.toList_ofList, head?_withHash]

theorem outcome_tagOfFolder_eq_none_iff :
    (tagOfFolder r preserve path).outcome = .ok none ↔
      entryChars r.tag = [] ∧ tagText r preserve part = "" := by
  rw [outcome_tagOfFolder preserve hpart, Except.ok.injEq, ← String.toList_eq_nil_iff,
    ← joinEntry_eq_nil_iff, ← List.isEmpty_iff]
  split <;> simp_all

end Tag

/-- What a mapping says about a path in normal form. -/
structure Mapper.Reports (m : Mapper) (path : String) (mapped : Mapped) : Prop where
  /-- There is no rule exactly when none matches. -/
  rule_eq_none_iff : mapped.rule = none ↔
    ∀ r ∈ m.rules, (evaluate path (m.query .folder .folderToTag) r).outcome = .ok none
  /-- A rule is the one that is selected. -/
  rule_eq : ∃ best, (findBest path (m.query .folder .folderToTag) m.rules).outcome = .ok best ∧
    mapped.rule = best.map (·.rule)
  /-- A rule fails exactly where its entry point and what is put behind it say nothing. -/
  success_eq_false_iff : ∀ r, mapped.rule = some r → ∃ part, folderMatch r path = .ok (some part) ∧
    (mapped.success = false ↔ entryChars r.tag = [] ∧ tagText r m.preserve part = "")
  /-- A tag is the one of the rule, and it begins with a mark. -/
  value_eq : ∀ v, mapped.value = some v → v.toList.head? = some '#' ∧
    ∃ r, mapped.rule = some r ∧ (tagOfFolder r m.preserve path).outcome = .ok (some v)
  /-- The conflicts are those of all rules. -/
  conflicts_eq : (findConflicts path (m.query .folder .folderToTag) m.rules).outcome =
    .ok mapped.conflicts

theorem reports_of_mapNormalPath (h : (m.mapNormalPath path).outcome = .ok mapped) :
    m.Reports path mapped := by
  rw [Mapper.mapNormalPath, Attempt.outcome_bind, bind_eq_ok_iff] at h
  obtain ⟨best, hbest, h⟩ := h
  cases best with
  | none =>
      simp only [Attempt.outcome_bind, Attempt.outcome_lift, ok_bind, Attempt.outcome_pure,
        Except.ok.injEq] at h
      subst h
      refine ⟨?_, ⟨none, hbest, rfl⟩, ?_, ?_, outcome_findConflicts_of_none hbest⟩
      · simpa using outcome_findBest_eq_none_iff.1 hbest
      · rintro r ⟨⟩
      · rintro v ⟨⟩
  | some best =>
      obtain ⟨part, hpart⟩ := folderMatch_of_findBest hbest
      rw [Attempt.outcome_bind, bind_eq_ok_iff] at h
      obtain ⟨conflicts, hconflicts, h⟩ := h
      rw [Attempt.outcome_bind, bind_eq_ok_iff] at h
      obtain ⟨tag, htag, h⟩ := h
      have hsome : ¬ ∀ r ∈ m.rules,
          (evaluate path (m.query .folder .folderToTag) r).outcome = .ok none := by
        rw [← outcome_findBest_eq_none_iff, hbest]
        simp
      cases tag with
      | none =>
          simp only [Attempt.outcome_pure, Except.ok.injEq] at h
          subst h
          refine ⟨?_, ⟨some best, hbest, rfl⟩, ?_, ?_, hconflicts⟩
          · simpa using hsome
          · rintro r ⟨⟩
            refine ⟨part, hpart, ?_⟩
            simpa [Mapped.success] using (outcome_tagOfFolder_eq_none_iff hpart).1 htag
          · rintro v ⟨⟩
      | some tag =>
          simp only [Attempt.outcome_bind, Attempt.outcome_lift, ok_bind, Attempt.outcome_pure,
            Except.ok.injEq] at h
          subst h
          refine ⟨?_, ⟨some best, hbest, rfl⟩, ?_, ?_, hconflicts⟩
          · simpa using hsome
          · rintro r ⟨⟩
            refine ⟨part, hpart, ?_⟩
            rw [← outcome_tagOfFolder_eq_none_iff hpart, htag]
            simp [Mapped.success]
          · rintro v ⟨⟩
            exact ⟨head?_of_tagOfFolder hpart htag, best.rule, rfl, htag⟩

/-- A mapping of a folder that comes to an end reports on the path in normal form. -/
theorem reports_of_mapFolder (h : (m.mapFolder path).outcome = .ok mapped) :
    m.Reports (normalPath path) mapped := by
  rw [Mapper.mapFolder, Attempt.outcome_within] at h
  exact reports_of_mapNormalPath h

/-- A rule set of one rule maps a folder below its entry point. -/
theorem reports_of_mapFolder_below :
    let m : Mapper := {
      rules := [{
        id := .text "projects"
        name := .text "Projects"
        folder := { pattern := some "Projects/*", entryPoint := some "Projects" }
        tag := { entryPoint := some "project" } }] }
    ∃ mapped, (m.mapFolder "/Projects/Alpha/").outcome = .ok mapped ∧
      m.Reports (normalPath "/Projects/Alpha/") mapped := by
  intro m
  have hpath : normalPath "/Projects/Alpha/" = "Projects/Alpha" := by decide +kernel
  have hmatch : (isMatch "Projects/Alpha" "Projects/*" "").outcome = .ok true := by
    rw [outcome_isMatch_glob (by decide) (by decide) (by decide) (by decide) rfl]
    exact congrArg Except.ok (by decide +kernel)
  have hfound : (matchesOf "Projects/Alpha" (m.query .folder .folderToTag) m.rules).outcome =
      .ok [_] :=
    outcome_matchesOf_cons_iff.2
      ⟨_, [], outcome_evaluate_of_isMatch (.inl rfl) rfl rfl hmatch, rfl, rfl⟩
  have hbest : (findBest "Projects/Alpha" (m.query .folder .folderToTag) m.rules).outcome =
      .ok (some _) :=
    outcome_findBest_iff.2 ⟨_, hfound, rfl⟩
  have hconflicts :
      (findConflicts "Projects/Alpha" (m.query .folder .folderToTag) m.rules).outcome = .ok [] := by
    rw [findConflicts, Attempt.outcome_bind, hfound]
    rfl
  obtain ⟨part, hpart⟩ := folderMatch_of_findBest hbest
  obtain ⟨mapped, h⟩ : ∃ mapped, (m.mapFolder "/Projects/Alpha/").outcome = .ok mapped := by
    rw [Mapper.mapFolder, hpath, Attempt.outcome_within, Mapper.mapNormalPath, Attempt.outcome_bind,
      hbest, ok_bind, Attempt.outcome_bind, hconflicts, ok_bind, Attempt.outcome_bind,
      outcome_tagOfFolder false hpart, ok_bind]
    split
    · exact ⟨_, rfl⟩
    · exact ⟨_, rfl⟩
  exact ⟨mapped, h, reports_of_mapFolder h⟩

end FolderTag.Mapping
