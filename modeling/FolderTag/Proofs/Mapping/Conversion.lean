import FolderTag.Mapping.Conversion
import FolderTag.Proofs.Mapping.EntryPoint
import FolderTag.Proofs.Pattern.Matching
import FolderTag.Proofs.Text.Blank
import FolderTag.Proofs.Transform.Pipeline

/-! # From a folder to its tag and back

A rule whose folder pattern is a glob makes a tag of every path that it matches. Where the two
recipes undo each other on what is left of the path, the tag leads back to the path. -/

namespace FolderTag.Mapping

open FolderTag.Document FolderTag.Log FolderTag.Pattern FolderTag.Text FolderTag.Transform

variable {r : Rule} {path pattern : String}

theorem usedPattern?_of_isGlob {e : Endpoint} (hpattern : e.pattern = some pattern)
    (hglob : isGlob pattern = true) : e.usedPattern? = some pattern := by
  have hne : pattern ≠ "" := by
    rintro rfl
    exact absurd hglob (by decide)
  simp [Endpoint.usedPattern?, hpattern, hne]

/-- The search for the tag finds what the search for the rule found. -/
theorem folderMatch_of_isMatch (hpattern : r.folder.usedPattern? = some pattern)
    (h : (isMatch path pattern "").outcome = .ok true) :
    ∃ part, folderMatch r path = .ok (some part) := by
  obtain ⟨entry, hcompile, hfound⟩ := outcome_isMatch_eq_true_iff.1 h
  obtain ⟨m, hm⟩ := Option.isSome_iff_exists.1 hfound
  exact ⟨String.ofList m.whole, by simp [folderMatch, hpattern, hcompile, hm]⟩

/-- A glob takes the whole path. -/
theorem folderMatch_of_isGlob (hpattern : r.folder.pattern = some pattern)
    (hglob : isGlob pattern = true) (h : (isMatch path pattern "").outcome = .ok true) :
    folderMatch r path = .ok (some path) := by
  obtain ⟨entry, hcompile, hfound⟩ := outcome_isMatch_eq_true_iff.1 h
  obtain ⟨m, hm⟩ := Option.isSome_iff_exists.1 hfound
  have hwhole := whole_of_search (kind_of_compile hglob hcompile) hm
  simp [folderMatch, usedPattern?_of_isGlob hpattern hglob, hcompile, hm, hwhole]

/-- The transformed part of a path that goes into its tag. -/
def tagText (r : Rule) (preserve : Bool) (part : String) : String :=
  ((recipeOf r.tag).folderToTag preserve
    (String.ofList (stripEntry (entryChars r.folder) part.toList))).value

/-- The tag of a path whose folder pattern was found. -/
theorem outcome_tagOfFolder {part : String} (preserve : Bool)
    (h : folderMatch r path = .ok (some part)) :
    (tagOfFolder r preserve path).outcome =
      .ok (if (joinEntry (entryChars r.tag) (tagText r preserve part).toList).isEmpty then none
        else some (String.ofList
          (withHash (joinEntry (entryChars r.tag) (tagText r preserve part).toList)))) := by
  simp only [tagOfFolder, Attempt.outcome_bind, Attempt.outcome_ofExcept, h, ok_bind,
    Attempt.outcome_lift, Attempt.outcome_pure, tagText]
  rfl

/-- Where the recipes undo each other on what is left of a path, the tag leads back to the path. -/
theorem folderOfTag_tagOfFolder {s t : List Char} (preserve preserve' : Bool)
    (hmatch : folderMatch r path = .ok (some path)) (hne : path ≠ "")
    (hpath : joinEntry (entryChars r.folder) s = path.toList)
    (hto : ((recipeOf r.tag).folderToTag preserve (String.ofList s)).value = String.ofList t)
    (hback : ((recipeOf r.folder).tagToFolder preserve' (String.ofList t)).value = String.ofList s)
    (hentry : entryChars r.tag ≠ ['#'])
    (ht : entryChars r.tag = [] → t ≠ [] ∧ t.head? ≠ some '#') :
    ∃ tag, (tagOfFolder r preserve path).outcome = .ok (some tag) ∧
      (folderOfTag r preserve' tag).value = some path := by
  have htext : tagText r preserve path = String.ofList t := by
    rw [tagText, ← hpath, stripEntry_joinEntry, hto]
  have hspoken : (joinEntry (entryChars r.tag) t).isEmpty = false := by
    rw [List.isEmpty_eq_false_iff, ne_eq, joinEntry_eq_nil_iff]
    exact fun h => (ht h.1).1 h.2
  refine ⟨String.ofList (withHash (joinEntry (entryChars r.tag) t)), ?_, ?_⟩
  · rw [outcome_tagOfFolder preserve hmatch, htext, String.toList_ofList, hspoken]
    rfl
  · have hlist : path.toList ≠ [] := fun h => hne (String.toList_eq_nil_iff.1 h)
    simp only [folderOfTag, Traced.value_bind, Traced.value_pure, String.toList_ofList,
      stripEntry_of_tag hentry fun h => (ht h).2, hback, hpath]
    simp [spoken, hlist]

end FolderTag.Mapping
