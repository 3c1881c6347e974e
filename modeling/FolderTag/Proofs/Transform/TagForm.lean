import FolderTag.Proofs.Text.Blank
import FolderTag.Proofs.Transform.Pipeline

/-! # The form of tags

The last stages on the way to a tag take out what a tag cannot hold, and what is blank around it.
Whatever the rewrites before them put in, nothing of that is left. -/

namespace FolderTag.Transform

open FolderTag.Document FolderTag.Log FolderTag.Text

/-! ## The last stages -/

theorem notMem_dropTagBreakers {s : List Char} {c : Char} (h : c ∈ tagBreakers) :
    c ∉ dropTagBreakers s := by
  intro hmem
  have hkept := (List.mem_filter.1 hmem).2
  rw [List.contains_iff_mem.2 h] at hkept
  cases hkept

/-- Trimming puts nothing in, so it does not bring back what was taken out before. -/
theorem notMem_finished {s : List Char} {c : Char} (h : c ∈ tagBreakers) :
    c ∉ Recipe.finished true s :=
  fun hmem => notMem_dropTagBreakers h (mem_of_mem_trim hmem)

namespace Recipe

/-! ## Runs without a failure -/

/-- A run succeeds only if the rewrites come to an end. -/
theorem exists_rewritten_of_success {r : Recipe} {forTag : Bool} {text : String}
    (h : (r.run forTag text).value.success = true) :
    ∃ made, Rewritten r.rewrites (String.ofList (r.drafted text.toList)) made := by
  refine (rewritten_or_stopped _ _).resolve_right ?_
  rintro ⟨i, hi⟩
  have hfailures : (r.run forTag text).value.failures =
      [{ name := "custom_regex", error := some ("custom_regex: " ++ i.message) }] :=
    congrArg Prod.snd (result_run_of_stopped forTag hi)
  rw [Report.success, Report.error_eq, hfailures] at h
  cases h

/-- What a run makes of a text on its way to a tag, if it succeeds: a text without the characters
that a tag cannot hold and without white space around it. The tag is that text. -/
theorem content_of_success {r : Recipe} {text : String}
    (h : (r.run true text).value.success = true) :
    let content := (r.run true text).value.content
    (∀ c ∈ ['.', ':', ';', ',', '?', '!', '@', '\\'], c ∉ content.toList) ∧
      IsTrimmed content.toList ∧
      ∀ preserve, (r.folderToTag preserve text).value = content := by
  intro content
  obtain ⟨made, hmade⟩ := exists_rewritten_of_success h
  have hcontent : content = String.ofList (finished true made.toList) :=
    congrArg Prod.fst (result_run_of_rewritten true hmade)
  rw [hcontent, String.toList_ofList]
  refine ⟨fun c hc => notMem_finished hc, isTrimmed_trim _, fun preserve => ?_⟩
  exact value_apply_of_rewritten true preserve hmade

/-- A rewrite that puts in blanks and points. Those at the end of the text go in the last stage. -/
theorem content_of_success_points :
    let r : Recipe := { convention := some .kebab, rewrites := [
      { pattern := .text "b", replacement := .text " .x: " }] }
    (r.run true "a b").value.success = true ∧ (r.folderToTag false "a b").value = "a- x" ∧
      IsTrimmed "a- x".toList := by
  intro r
  have hsuccess : (r.run true "a b").value.success = true := by decide +kernel
  obtain ⟨-, htrimmed, htag⟩ := content_of_success hsuccess
  have hcontent : (r.run true "a b").value.content = "a- x" := by decide +kernel
  rw [hcontent] at htrimmed htag
  exact ⟨hsuccess, htag false, htrimmed⟩

end Recipe

end FolderTag.Transform
