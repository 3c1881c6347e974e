import FolderTag.Proofs.Outcome
import FolderTag.Rule.Validation

/-! # Rules without problems

A rule without problems has an id, a name, a whole priority and the patterns that its direction
needs, and each of its patterns can be compiled. -/

namespace FolderTag.Rule

open FolderTag.Pattern

theorem patternProblems_eq_nil_iff {side : Side} {e : Endpoint} :
    patternProblems side e = .ok [] ↔
      ∀ pattern, e.usedPattern? = some pattern → ∃ entry, compile pattern "" = .ok entry := by
  rw [patternProblems]
  cases e.usedPattern? with
  | none => simp
  | some pattern =>
      simp only [Option.some.injEq, forall_eq']
      cases hcompile : compile pattern "" with
      | ok entry => simp
      | error refusal =>
          simp only
          split <;> simp

/-- What is reported of the pattern of one side names that side. -/
theorem patternProblems_eq_of_mem {side side' : Side} {e : Endpoint} {found : List Problem}
    {refusal : Refusal} (h : patternProblems side e = .ok found)
    (hmem : Problem.invalidPattern side' refusal ∈ found) :
    side' = side ∧ found = [.invalidPattern side refusal] := by
  rw [patternProblems] at h
  split at h
  · cases h
    simp at hmem
  · split at h
    · cases h
      simp at hmem
    · split at h
      · cases h
        obtain ⟨rfl, rfl⟩ : side' = side ∧ refusal = _ := by simpa using hmem
        exact ⟨rfl, rfl⟩
      · cases h

/-- A pattern is reported as invalid exactly when its own check reports it. -/
theorem invalidPattern_mem_problems_iff {r : Rule} {found : List Problem}
    (h : r.problems = .ok found) {side : Side} {refusal : Refusal} :
    Problem.invalidPattern side refusal ∈ found ↔
      patternProblems side (r.endpoint side) = .ok [.invalidPattern side refusal] := by
  rw [problems] at h
  obtain ⟨folder, hfolder, h⟩ := bind_eq_ok_iff.1 h
  obtain ⟨tag, htag, h⟩ := bind_eq_ok_iff.1 h
  cases h
  constructor
  · intro hmem
    have hmem : Problem.invalidPattern side refusal ∈ folder ∨
        Problem.invalidPattern side refusal ∈ tag := by
      simp only [List.mem_append, List.mem_map, reduceCtorEq, and_false, exists_false] at hmem
      grind
    rcases hmem with hmem | hmem
    · obtain ⟨rfl, rfl⟩ := patternProblems_eq_of_mem hfolder hmem
      exact hfolder
    · obtain ⟨rfl, rfl⟩ := patternProblems_eq_of_mem htag hmem
      exact htag
  · intro hside
    cases side with
    | folder =>
        obtain rfl := Except.ok.inj (hfolder.symm.trans hside)
        simp
    | tag =>
        obtain rfl := Except.ok.inj (htag.symm.trans hside)
        simp

/-- What holds of a rule without problems. -/
structure IsSound (r : Rule) : Prop where
  id : isBlankValue r.id = false
  name : isBlankValue r.name = false
  priority : isPriority r.priority = true
  needed : ∀ side ∈ neededSides r.direction, (r.endpoint side).usedPattern? ≠ none
  compiles : ∀ side pattern, (r.endpoint side).usedPattern? = some pattern →
    ∃ entry, compile pattern "" = .ok entry

theorem problems_eq_nil_iff {r : Rule} : r.problems = .ok [] ↔ r.IsSound := by
  rw [problems]
  simp only [bind_eq_ok_iff, pure_eq_ok, Except.ok.injEq, List.append_eq_nil_iff,
    List.map_eq_nil_iff, List.filter_eq_nil_iff, Option.isNone_iff_eq_none]
  constructor
  · rintro ⟨folder, hfolder, tag, htag, ⟨⟨⟨⟨hid, hname⟩, hpriority⟩, hneeded⟩, rfl⟩, rfl⟩
    refine ⟨by simpa using hid, by simpa using hname, by simpa using hpriority, hneeded, ?_⟩
    rintro (_ | _)
    · exact patternProblems_eq_nil_iff.1 hfolder
    · exact patternProblems_eq_nil_iff.1 htag
  · intro h
    exact ⟨[], patternProblems_eq_nil_iff.2 (h.compiles .folder),
      [], patternProblems_eq_nil_iff.2 (h.compiles .tag),
      ⟨⟨⟨⟨by simp [h.id], by simp [h.name]⟩, by simp [h.priority]⟩, h.needed⟩, rfl⟩, rfl⟩

theorem IsSound.exists_whole {r : Rule} (h : r.IsSound) : ∃ n, r.priority.whole? = some n := by
  have hpriority := h.priority
  rw [isPriority] at hpriority
  cases hwhole : r.priority.whole? with
  | none => simp [hwhole] at hpriority
  | some n => exact ⟨n, rfl⟩

end FolderTag.Rule
