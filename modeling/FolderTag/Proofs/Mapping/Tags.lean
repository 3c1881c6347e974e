import FolderTag.Mapping.Mapper
import FolderTag.Proofs.Outcome

/-! # Mapping several tags

The first tag that has a folder decides. More tags behind such a list change nothing, and tags
without a folder in front of a list do not change what the list is mapped to. Only where no tag has
a folder do all of them come back, in the message. -/

namespace FolderTag.Mapping

open FolderTag.Document FolderTag.Log FolderTag.Matching FolderTag.Pattern

namespace Mapper

variable {m : Mapper} {tag : String} {xs ys tags : List String} {mapped : Mapped}

/-! ## The first tag that has a folder -/

/-- What a tag is mapped to is a folder. -/
theorem success_of_mapNormalTag (h : (m.mapNormalTag tag).outcome = .ok (some mapped)) :
    mapped.success = true := by
  rw [mapNormalTag, Attempt.outcome_bind, bind_eq_ok_iff] at h
  obtain ⟨best, -, h⟩ := h
  cases best with
  | none => simp at h
  | some best =>
      rw [Attempt.outcome_bind, Attempt.outcome_lift, ok_bind] at h
      cases hfolder : (folderOfTag best.rule m.preserve tag).value with
      | none => simp [hfolder] at h
      | some folder =>
          simp only [hfolder, Attempt.outcome_bind, Attempt.outcome_lift, ok_bind,
            bind_eq_ok_iff, Attempt.outcome_pure, Except.ok.injEq, Option.some.injEq] at h
          obtain ⟨conflicts, -, rfl⟩ := h
          rfl

@[simp] theorem outcome_mapFirst_cons (m : Mapper) (tag : String) (tags : List String) :
    (m.mapFirst (tag :: tags)).outcome = (m.mapNormalTag tag).outcome >>= fun
      | some mapped => .ok (some mapped)
      | none => (m.mapFirst tags).outcome := by
  rw [mapFirst, Attempt.outcome_bind, Attempt.outcome_within]
  congr 1
  funext o
  cases o <;> rfl

theorem success_of_mapFirst (h : (m.mapFirst tags).outcome = .ok (some mapped)) :
    mapped.success = true := by
  induction tags with
  | nil => simp [mapFirst] at h
  | cons tag tags ih =>
      rw [outcome_mapFirst_cons, bind_eq_ok_iff] at h
      obtain ⟨first, hfirst, h⟩ := h
      cases first with
      | none => exact ih h
      | some first =>
          obtain rfl : first = mapped := by simpa using h
          exact success_of_mapNormalTag hfirst

/-- Tags are mapped as the first part of their list, and only where that has no folder as the
second part. -/
theorem outcome_mapFirst_append (m : Mapper) (xs ys : List String) :
    (m.mapFirst (xs ++ ys)).outcome = (m.mapFirst xs).outcome >>= fun
      | some mapped => .ok (some mapped)
      | none => (m.mapFirst ys).outcome := by
  induction xs with
  | nil => rfl
  | cons tag xs ih =>
      rw [List.cons_append, outcome_mapFirst_cons, outcome_mapFirst_cons]
      cases (m.mapNormalTag tag).outcome with
      | error stop => rfl
      | ok first =>
          cases first with
          | none => exact ih
          | some mapped => rfl

/-! ## Lists of tags -/

@[simp] theorem spokenTags_append (xs ys : List String) :
    spokenTags (xs ++ ys) = spokenTags xs ++ spokenTags ys := by
  simp [spokenTags]

theorem outcome_mapTags_of_some (h : (m.mapFirst (spokenTags tags)).outcome = .ok (some mapped)) :
    (m.mapTags tags).outcome = .ok mapped := by
  rw [mapTags, Attempt.outcome_bind, h]
  rfl

theorem outcome_mapTags_of_none (h : (m.mapFirst (spokenTags tags)).outcome = .ok none) :
    (m.mapTags tags).outcome = .ok { message := noFolderMessage (spokenTags tags) } := by
  rw [mapTags, Attempt.outcome_bind, h]
  rfl

/-- A list of tags is mapped to a folder, or to a message that says that there is none. -/
theorem some_or_none_of_mapTags (h : (m.mapTags tags).outcome = .ok mapped) :
    mapped.success = true ∧ (m.mapFirst (spokenTags tags)).outcome = .ok (some mapped) ∨
    mapped = { message := noFolderMessage (spokenTags tags) } ∧
      (m.mapFirst (spokenTags tags)).outcome = .ok none := by
  have hfirst := h
  rw [mapTags, Attempt.outcome_bind, bind_eq_ok_iff] at hfirst
  obtain ⟨first, hfirst, -⟩ := hfirst
  cases first with
  | none =>
      rw [outcome_mapTags_of_none hfirst, Except.ok.injEq] at h
      exact .inr ⟨h.symm, hfirst⟩
  | some first =>
      rw [outcome_mapTags_of_some hfirst, Except.ok.injEq] at h
      rw [← h]
      exact .inl ⟨success_of_mapFirst hfirst, hfirst⟩

theorem noFolderMessage_of_ne_nil (h : tags ≠ []) :
    noFolderMessage tags =
      "No rule maps tag(s): " ++ ", ".intercalate (tags.map ("#" ++ ·)) := by
  simp [noFolderMessage, h]

/-- Nothing is said of tags exactly where no tag says anything. -/
theorem noFolderMessage_eq_iff (tags : List String) :
    noFolderMessage tags = "No tags to map" ↔ tags = [] := by
  constructor
  · intro h
    by_contra hne
    rw [noFolderMessage_of_ne_nil hne] at h
    have hletter := congrArg (fun s => s.toList[3]?) h
    simp at hletter
  · rintro rfl
    rfl

/-- Where a list of tags has a folder, tags behind it change nothing. Where it has none, tags behind
it are mapped as if they stood alone, and what comes back are the tags that say something, in their
order. -/
theorem mapTags_append (h : (m.mapTags xs).outcome = .ok mapped) :
    (mapped.success = true → ∀ ys, (m.mapTags (xs ++ ys)).outcome = .ok mapped) ∧
    (mapped.success = false →
      (∀ ys others, (m.mapTags ys).outcome = .ok others →
        ∃ all, (m.mapTags (xs ++ ys)).outcome = .ok all ∧
          (all.success = true ↔ others.success = true) ∧
          (others.success = true → all = others)) ∧
      mapped.rule = none ∧ mapped.conflicts = [] ∧
      (mapped.message = "No tags to map" ↔ spokenTags xs = []) ∧
      (spokenTags xs ≠ [] → mapped.message =
        "No rule maps tag(s): " ++ ", ".intercalate ((spokenTags xs).map ("#" ++ ·)))) := by
  rcases some_or_none_of_mapTags h with ⟨hsuccess, hfirst⟩ | ⟨rfl, hfirst⟩
  · constructor
    · intro _ ys
      apply outcome_mapTags_of_some
      rw [spokenTags_append, outcome_mapFirst_append, hfirst]
      rfl
    · intro hfails
      rw [hsuccess] at hfails
      cases hfails
  · constructor
    · intro hsuccess
      cases hsuccess
    · intro _
      refine ⟨?_, rfl, rfl, noFolderMessage_eq_iff _, noFolderMessage_of_ne_nil⟩
      intro ys others hys
      have hall : (m.mapFirst (spokenTags (xs ++ ys))).outcome =
          (m.mapFirst (spokenTags ys)).outcome := by
        rw [spokenTags_append, outcome_mapFirst_append, hfirst]
        rfl
      rcases some_or_none_of_mapTags hys with ⟨hsuccess, hrest⟩ | ⟨rfl, hrest⟩
      · exact ⟨others, outcome_mapTags_of_some (hall.trans hrest), Iff.rfl, fun _ => rfl⟩
      · refine ⟨_, outcome_mapTags_of_none (hall.trans hrest), ?_, ?_⟩
        · simp [Mapped.success]
        · intro hsuccess
          cases hsuccess

/-- A tag that says nothing and one without a rule stand in front of a tag that has a folder. -/
theorem mapTags_append_projects :
    let m : Mapper := {
      rules := [{
        id := .text "projects"
        name := .text "Projects"
        folder := { entryPoint := some "Projects" }
        tag := { pattern := some "projects/*", entryPoint := some "projects" } }] }
    let xs := [" # ", "#reading"]
    let ys := ["#projects/alpha"]
    ∃ mapped others all, (m.mapTags xs).outcome = .ok mapped ∧ mapped.success = false ∧
      (m.mapTags ys).outcome = .ok others ∧ others.success = true ∧
      (m.mapTags (xs ++ ys)).outcome = .ok all ∧ all = others ∧
      mapped.message = "No rule maps tag(s): #reading" := by
  intro m xs ys
  have hspoken : spokenTags xs = ["reading"] := by decide +kernel
  have hfails : (m.mapTags xs).outcome.toOption.map Mapped.success = some false := by
    decide +kernel
  have hsucceeds : (m.mapTags ys).outcome.toOption.map Mapped.success = some true := by
    decide +kernel
  obtain ⟨mapped, hmapped, hmappedFails⟩ := Option.map_eq_some_iff.1 hfails
  obtain ⟨others, hothers, hothersSucceed⟩ := Option.map_eq_some_iff.1 hsucceeds
  have hxs := eq_ok_of_toOption hmapped
  have hys := eq_ok_of_toOption hothers
  obtain ⟨hbehind, -, -, -, hmessage⟩ := (mapTags_append hxs).2 hmappedFails
  obtain ⟨all, hall, -, hsame⟩ := hbehind ys others hys
  rw [hspoken] at hmessage
  exact ⟨mapped, others, all, hxs, hmappedFails, hys, hothersSucceed, hall, hsame hothersSucceed,
    hmessage (List.cons_ne_nil _ _)⟩

end Mapper

end FolderTag.Mapping
