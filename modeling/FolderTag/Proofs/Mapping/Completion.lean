import FolderTag.Proofs.Mapping.Mapper
import FolderTag.Proofs.Matching.Conflicts
import FolderTag.Proofs.Rule.Stored

/-! # When a mapping comes to an end

A rule without problems may lack a direction. Such a rule stops a mapping that looks at it, and
nothing else does. -/

namespace FolderTag.Mapping

open FolderTag.Document FolderTag.Log FolderTag.Matching FolderTag.Pattern FolderTag.Rule

variable {m : Mapper} {path : String} {tags : List String}

/-- Every rule that the mapper looks at says in which direction it may be used. -/
def Mapper.IsDirected (m : Mapper) : Prop :=
  ∀ r ∈ m.rules, (r.enabled.isSet || m.includeDisabled) = true → r.direction ≠ none

theorem exists_findBest_query_iff (path : String) (side : Side) (d : Direction)
    (hsound : ∀ r ∈ m.rules, r.IsSound) :
    (∃ o, (findBest path (m.query side d) m.rules).outcome = .ok o) ↔ m.IsDirected :=
  exists_findBest_iff rfl rfl hsound

/-! ## Folders -/

theorem exists_tagOfFolder {best : RuleMatch} (preserve : Bool)
    (h : (findBest path (m.query .folder .folderToTag) m.rules).outcome = .ok (some best)) :
    ∃ o, (tagOfFolder best.rule preserve path).outcome = .ok o := by
  obtain ⟨part, hpart⟩ := folderMatch_of_findBest h
  exact ⟨_, outcome_tagOfFolder preserve hpart⟩

/-- A mapping of a path in normal form comes to an end as soon as the selection of a rule does. -/
theorem exists_mapNormalPath_iff (hsound : ∀ r ∈ m.rules, r.IsSound) :
    (∃ mapped, (m.mapNormalPath path).outcome = .ok mapped) ↔ m.IsDirected := by
  rw [← exists_findBest_query_iff path .folder .folderToTag hsound,
    Mapper.mapNormalPath, Attempt.outcome_bind]
  constructor
  · rintro ⟨mapped, h⟩
    obtain ⟨best, hbest, -⟩ := bind_eq_ok_iff.1 h
    exact ⟨best, hbest⟩
  · rintro ⟨best, hbest⟩
    rw [hbest, ok_bind]
    cases best with
    | none => exact ⟨_, rfl⟩
    | some best =>
        obtain ⟨conflicts, hconflicts⟩ := exists_findConflicts hsound hbest
        obtain ⟨tag, htag⟩ := exists_tagOfFolder m.preserve hbest
        simp only [Attempt.outcome_bind, hconflicts, ok_bind, htag]
        cases tag with
        | none => exact ⟨_, rfl⟩
        | some tag => exact ⟨_, rfl⟩

/-! ## Tags -/

theorem exists_mapNormalTag_iff (tag : String) (hsound : ∀ r ∈ m.rules, r.IsSound) :
    (∃ o, (m.mapNormalTag tag).outcome = .ok o) ↔ m.IsDirected := by
  rw [← exists_findBest_query_iff tag .tag .tagToFolder hsound,
    Mapper.mapNormalTag, Attempt.outcome_bind]
  constructor
  · rintro ⟨o, h⟩
    obtain ⟨best, hbest, -⟩ := bind_eq_ok_iff.1 h
    exact ⟨best, hbest⟩
  · rintro ⟨best, hbest⟩
    rw [hbest, ok_bind]
    cases best with
    | none => exact ⟨_, rfl⟩
    | some best =>
        obtain ⟨conflicts, hconflicts⟩ := exists_findConflicts hsound hbest
        simp only [Attempt.outcome_bind, Attempt.outcome_lift, ok_bind]
        cases (folderOfTag best.rule m.preserve tag).value with
        | none => exact ⟨_, rfl⟩
        | some folder =>
            simp only [Attempt.outcome_bind, Attempt.outcome_lift, ok_bind, hconflicts]
            exact ⟨_, rfl⟩

theorem exists_mapFirst (hsound : ∀ r ∈ m.rules, r.IsSound) (hdirected : m.IsDirected)
    (tags : List String) : ∃ o, (m.mapFirst tags).outcome = .ok o := by
  induction tags with
  | nil => exact ⟨none, rfl⟩
  | cons tag tags ih =>
      obtain ⟨first, hfirst⟩ := (exists_mapNormalTag_iff tag hsound).2 hdirected
      rw [Mapper.mapFirst, Attempt.outcome_bind, Attempt.outcome_within, hfirst, ok_bind]
      cases first with
      | none => exact ih
      | some mapped => exact ⟨_, rfl⟩

/-- Tags are mapped to an end exactly when the first of them is, if there is one. -/
theorem exists_mapFirst_iff (hsound : ∀ r ∈ m.rules, r.IsSound) :
    (∃ o, (m.mapFirst tags).outcome = .ok o) ↔ tags = [] ∨ m.IsDirected := by
  constructor
  · rintro ⟨o, h⟩
    cases tags with
    | nil => exact .inl rfl
    | cons tag tags =>
        rw [Mapper.mapFirst, Attempt.outcome_bind, Attempt.outcome_within, bind_eq_ok_iff] at h
        obtain ⟨first, hfirst, -⟩ := h
        exact .inr ((exists_mapNormalTag_iff tag hsound).1 ⟨first, hfirst⟩)
  · rintro (rfl | hdirected)
    · exact ⟨none, rfl⟩
    · exact exists_mapFirst hsound hdirected tags

theorem exists_mapTags_iff (hsound : ∀ r ∈ m.rules, r.IsSound) :
    (∃ mapped, (m.mapTags tags).outcome = .ok mapped) ↔
      Mapper.spokenTags tags = [] ∨ m.IsDirected := by
  rw [← exists_mapFirst_iff hsound, Mapper.mapTags, Attempt.outcome_bind]
  constructor
  · rintro ⟨mapped, h⟩
    obtain ⟨first, hfirst, -⟩ := bind_eq_ok_iff.1 h
    exact ⟨first, hfirst⟩
  · rintro ⟨first, hfirst⟩
    rw [hfirst, ok_bind]
    cases first with
    | none => exact ⟨_, rfl⟩
    | some mapped => exact ⟨_, rfl⟩

/-- A mapping by rules without problems comes to an end, for every path and every list of tags,
exactly when every rule that is looked at says in which direction it may be used. Only tags that say
nothing are mapped without a look at any rule. -/
theorem mapping_completes_iff {m : Mapper} (h : ∀ r ∈ m.rules, r.problems = .ok []) :
    (∀ path, (∃ mapped, (m.mapFolder path).outcome = .ok mapped) ↔ m.IsDirected) ∧
    (∀ tags, (∃ mapped, (m.mapTags tags).outcome = .ok mapped) ↔
      Mapper.spokenTags tags = [] ∨ m.IsDirected) := by
  have hsound : ∀ r ∈ m.rules, r.IsSound := fun r hr => problems_eq_nil_iff.1 (h r hr)
  exact ⟨fun path => exists_mapNormalPath_iff hsound, fun tags => exists_mapTags_iff hsound⟩

/-- Two rules that belong to the same folders map every folder and every tag. -/
theorem mapping_completes_projects :
    let projects : Endpoint := { pattern := some "Projects/*" }
    let m : Mapper := {
      rules := [
        { id := .text "a", name := .text "A", direction := some .folderToTag, folder := projects },
        { id := .text "b", name := .text "B", priority := .int 1, folder := projects,
          tag := { pattern := some "project/*" } }]
      includeDisabled := true }
    (∀ r ∈ m.rules, r.problems = .ok []) ∧
    (∀ path, ∃ mapped, (m.mapFolder path).outcome = .ok mapped) ∧
    ∀ tags, ∃ mapped, (m.mapTags tags).outcome = .ok mapped := by
  intro projects m
  have hfolder : compile "Projects/*" "" = .ok _ :=
    compile_glob (by decide) (by decide) (by decide) (by decide) rfl
  have htag : compile "project/*" "" = .ok _ :=
    compile_glob (by decide) (by decide) (by decide) (by decide) rfl
  have hproblems : ∀ r ∈ m.rules, r.problems = .ok [] := by
    intro r hr
    rcases List.mem_pair.1 hr with rfl | rfl
    · refine problems_eq_nil_iff.2 ⟨by decide, by decide, by decide, by decide, ?_⟩
      rintro (_ | _) pattern ⟨⟩
      exact ⟨_, hfolder⟩
    · refine problems_eq_nil_iff.2 ⟨by decide, by decide, by decide, by decide, ?_⟩
      rintro (_ | _) pattern ⟨⟩
      · exact ⟨_, hfolder⟩
      · exact ⟨_, htag⟩
  have hdirected : m.IsDirected := by
    intro r hr _
    rcases List.mem_pair.1 hr with rfl | rfl <;> simp
  obtain ⟨hfolders, htags⟩ := mapping_completes_iff hproblems
  exact ⟨hproblems, fun path => (hfolders path).2 hdirected,
    fun tags => (htags tags).2 (.inr hdirected)⟩

/-- A stored rule whose direction is nothing is read, has no problems, and stops every mapping that
looks at it. -/
theorem mapping_stops_at_null_direction :
    let stored := Value.ofFields [
      ("id", .text "a"), ("name", .text "A"), ("enabled", .bool true), ("priority", .int 0),
      ("direction", .null), ("options", .map [])]
    ∃ r, Rule.ofValue stored = .ok r ∧ r.problems = .ok [] ∧
      (({ rules := [r] } : Mapper).mapFolder "A").outcome =
        .error (.misuse (.noPart "NoneType" "value")) ∧
      (({ rules := [r] } : Mapper).mapTags ["a"]).outcome =
        .error (.misuse (.noPart "NoneType" "value")) := by
  intro stored
  refine ⟨{ id := .text "a", name := .text "A", direction := none }, ?_, ?_, ?_, ?_⟩
  · have hoptions : Options.ofValue (Value.ofFields []) = .ok {} :=
      Options.ofValue_ofFields (by simp)
    rw [Rule.ofValue_ofFields (by decide) (by decide)]
    simp only [Value.field?_entriesOf, fieldOr]
    exact congrArg (· >>= _) hoptions
  · refine problems_eq_nil_iff.2 ⟨by decide, by decide, by decide, by decide, ?_⟩
    rintro (_ | _) pattern ⟨⟩
  · rfl
  · have htags : Mapper.spokenTags ["a"] = ["a"] := by decide +kernel
    rw [Mapper.mapTags, htags]
    rfl

end FolderTag.Mapping
