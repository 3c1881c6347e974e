import FolderTag.Proofs.Mapping.Conversion
import FolderTag.Proofs.Pattern.GlobLanguage
import FolderTag.Proofs.Transform.Convention

/-! # Round trips

Without recipes, and with recipes that only change the writing of names, the tag of a folder leads
back to the folder. -/

namespace FolderTag.Mapping

open FolderTag.Document FolderTag.Pattern FolderTag.Text FolderTag.Transform

/-! ## Without recipes -/

theorem dropTagBreakers_of_forall {s : List Char} (h : ∀ c ∈ s, c ∉ tagBreakers) :
    dropTagBreakers s = s := by
  rw [dropTagBreakers, List.filter_eq_self]
  intro c hc
  simpa using h c hc

/-- A plain recipe leaves a trimmed text alone that a tag can hold. -/
theorem value_apply_plain {s : List Char} (htrim : IsTrimmed s)
    (hbreakers : ∀ c ∈ s, c ∉ tagBreakers) (forTag preserve : Bool) :
    (Recipe.plain.apply forTag preserve (String.ofList s)).value = String.ofList s := by
  have hdraft : Recipe.plain.drafted s = s := trim_of_isTrimmed htrim
  rw [Recipe.value_apply_of_rewrites_nil rfl, String.toList_ofList, hdraft, Recipe.finished,
    dropTagBreakers_of_forall hbreakers, ite_self, trim_of_isTrimmed htrim]

/-- A rule without recipes makes a tag of every path that its glob matches, and the tag leads back
to the path. What is left of the path under the entry point is a text that a tag can hold. -/
theorem folderOfTag_tagOfFolder_of_plain {r : Rule} {path glob : String} {s : List Char}
    (preserve preserve' : Bool) (hpattern : r.folder.pattern = some glob)
    (hglob : isGlob glob = true) (hfolder : recipeOf r.folder = Recipe.plain)
    (htag : recipeOf r.tag = Recipe.plain) (hmatch : (isMatch path glob "").outcome = .ok true)
    (hne : path ≠ "") (hunder : LiesUnder (entryChars r.folder) path.toList s)
    (htrim : IsTrimmed s) (hbreakers : ∀ c ∈ s, c ∉ ".:;,?!@\\".toList)
    (hentry : entryChars r.tag ≠ ['#'])
    (hfree : entryChars r.tag = [] → s ≠ [] ∧ s.head? ≠ some '#') :
    ∃ tag, (tagOfFolder r preserve path).outcome = .ok (some tag) ∧
      (folderOfTag r preserve' tag).value = some path := by
  apply folderOfTag_tagOfFolder preserve preserve' (folderMatch_of_isGlob hpattern hglob hmatch) hne
    (liesUnder_iff.1 hunder) _ _ hentry hfree
  · rw [htag]
    exact value_apply_plain htrim hbreakers true preserve
  · rw [hfolder]
    exact value_apply_plain htrim hbreakers false preserve'

/-- A path below an entry point comes back from a tag below another. -/
theorem folderOfTag_tagOfFolder_of_plain_below :
    let r : Rule := {
      id := .text "projects"
      name := .text "Projects"
      folder := { pattern := some "Projects/*", entryPoint := some "Projects" }
      tag := { entryPoint := some "#project" } }
    ∃ tag, (tagOfFolder r false "Projects/Alpha").outcome = .ok (some tag) ∧
      (folderOfTag r false tag).value = some "Projects/Alpha" :=
  folderOfTag_tagOfFolder_of_plain (s := "Alpha".toList) false false rfl (by decide) rfl rfl
    (by
      rw [outcome_isMatch_glob (by decide) (by decide) (by decide) (by decide) rfl]
      exact congrArg Except.ok (by decide +kernel))
    (by decide) (.below _ (by decide) (by decide)) (.of_forall (by simp; decide))
    (by simp) (by decide) (by decide)

/-! ## Between titles and separated words -/

theorem drafted_of_convention {k : Convention} (hk : k ≠ .asIs) (s : List Char) :
    ({ convention := some k } : Recipe).drafted s = k.applyToPath (trim s) := by
  cases k <;> first | rfl | exact absurd rfl hk

theorem fits_tag {c : Char} (h : c.isAlphanum = true ∨ c = '-' ∨ c = '_' ∨ c = '/') :
    isBlank c = false ∧ c ∉ tagBreakers ∧ c ≠ '#' := by
  rcases h with h | rfl | rfl | rfl
  · exact forall_ascii
      (p := fun c => c.isAlphanum = true → isBlank c = false ∧ c ∉ tagBreakers ∧ c ≠ '#')
      (by decide +kernel) (toNat_lt_of_isAlphanum h) h
  · decide
  · decide
  · decide

/-- Titles that are left of a path come back from separated words. -/
theorem folderOfTag_tagOfFolder_of_segments {r : Rule} {path : String} {k : Convention}
    {segments : List (List Char)} (preserve preserve' : Bool)
    (hmatch : folderMatch r path = .ok (some path)) (hne : path ≠ "") (hk : k.Separates)
    (htag : r.tag.recipe = some { convention := some k })
    (hfolder : r.folder.recipe = some { convention := some .title })
    (hentry : entryChars r.tag ≠ ['#'])
    (hpath : joinEntry (entryChars r.folder) (joinWith ['/'] segments) = path.toList)
    (hsegments : ∀ s ∈ segments, s = [] ∨ IsTitle s) (hspoken : joinWith ['/'] segments ≠ [])
    (htrim : IsTrimmed (joinWith ['/'] segments)) :
    ∃ tag, (tagOfFolder r preserve path).outcome = .ok (some tag) ∧
      (folderOfTag r preserve' tag).value = some path := by
  have hsome : segments ≠ [] := by
    rintro rfl
    exact hspoken rfl
  have hback := title_applyToPath hsome hsegments hk
  have hchars := mem_applyToPath hsome hsegments hk
  generalize ht : k.applyToPath (joinWith ['/'] segments) = t at hback hchars
  have hfits : ∀ c ∈ t, isBlank c = false ∧ c ∉ tagBreakers ∧ c ≠ '#' :=
    fun c hc => fits_tag (hchars c hc)
  have htrimmed : trim t = t := trim_of_isTrimmed (.of_forall fun c hc => (hfits c hc).1)
  have hbreakers : dropTagBreakers t = t :=
    dropTagBreakers_of_forall fun c hc => (hfits c hc).2.1
  have hkind : k ≠ .asIs := by rcases hk with rfl | rfl <;> decide
  apply folderOfTag_tagOfFolder (t := t) preserve preserve' hmatch hne hpath _ _ hentry
  · intro _
    refine ⟨?_, fun hhead => (hfits '#' (List.mem_of_mem_head? hhead)).2.2 rfl⟩
    rintro rfl
    rw [← hback] at hspoken
    exact hspoken
      (by simp [Convention.applyToPath, splitAt, joinWith_singleton, Convention.apply, title_nil])
  · rw [recipeOf, htag, Option.getD_some, Recipe.folderToTag,
      Recipe.value_apply_of_rewrites_nil rfl, String.toList_ofList, drafted_of_convention hkind,
      trim_of_isTrimmed htrim, ht, Recipe.finished, if_pos rfl, hbreakers, htrimmed]
  · rw [recipeOf, hfolder, Option.getD_some, Recipe.tagToFolder,
      Recipe.value_apply_of_rewrites_nil rfl, String.toList_ofList,
      drafted_of_convention (by decide), htrimmed, hback, Recipe.finished, if_neg (by decide),
      trim_of_isTrimmed htrim]

/-- A rule that writes titles with small words in tags makes a tag of every path of titles that its
glob matches, and the tag leads back to the path. -/
theorem folderOfTag_tagOfFolder_of_titles {r : Rule} {path glob : String} {k : Convention}
    {s : List Char} (preserve preserve' : Bool) (hpattern : r.folder.pattern = some glob)
    (hglob : isGlob glob = true) (hk : k = .kebab ∨ k = .snake)
    (htag : r.tag.recipe = some { convention := some k })
    (hfolder : r.folder.recipe = some { convention := some .title })
    (hentry : entryChars r.tag ≠ ['#'])
    (hmatch : (isMatch path glob "").outcome = .ok true) (hs : IsTitlePath s)
    (hpath : (entryChars r.folder = [] ∧ path.toList = s) ∨
      ∃ entry, r.folder.entryPoint = some entry ∧ path.toList = entry.toList ++ '/' :: s) :
    ∃ tag, (tagOfFolder r preserve path).outcome = .ok (some tag) ∧
      (folderOfTag r preserve' tag).value = some path := by
  obtain ⟨segments, hsome, hsegments, rfl⟩ := hs
  have hpart := folderMatch_of_isGlob hpattern hglob hmatch
  have htrim : IsTrimmed (joinWith ['/'] segments) :=
    isTrimmed_joinWith fun s hs => ⟨(hsegments s hs).isTrimmed, (hsegments s hs).ne_nil⟩
  have hspoken : joinWith ['/'] segments ≠ [] :=
    joinWith_ne_nil hsome (fun s hs => (hsegments s hs).ne_nil) ['/']
  have hne : path ≠ "" := by
    rintro rfl
    rcases hpath with ⟨-, h⟩ | ⟨entry, -, h⟩
    · exact hspoken h.symm
    · simp at h
  have htitles : ∀ s ∈ segments, s = [] ∨ IsTitle s := fun s hs => .inr (hsegments s hs)
  rcases hpath with ⟨hfree, hlist⟩ | ⟨entry, hsame, hlist⟩
  · apply folderOfTag_tagOfFolder_of_segments preserve preserve' hpart hne hk htag hfolder hentry _
      htitles hspoken htrim
    rw [hfree, hlist]
    rfl
  · have hchars : entryChars r.folder = entry.toList := by simp [entryChars, hsame]
    by_cases hempty : entry.toList = []
    · -- An entry point that says nothing leaves the slash behind it to the path.
      have hslash : joinWith ['/'] ([] :: segments) = '/' :: joinWith ['/'] segments := by
        obtain ⟨s, rest, rfl⟩ := List.exists_cons_of_ne_nil hsome
        rw [joinWith_cons_cons]
        rfl
      apply folderOfTag_tagOfFolder_of_segments preserve preserve' hpart hne hk htag hfolder hentry
      · rw [hchars, hlist, hempty, hslash]
        rfl
      · simpa using htitles
      · rw [hslash]
        exact List.cons_ne_nil _ _
      · rw [hslash]
        have hbefore : IsTrimmed ['/'] := .of_forall (by simp; rfl)
        exact hbefore.around (List.cons_ne_nil '/' []) htrim hspoken []
    · apply folderOfTag_tagOfFolder_of_segments preserve preserve' hpart hne hk htag hfolder hentry
        _ htitles hspoken htrim
      rw [hchars, hlist, joinEntry, if_neg (by simpa using hempty), if_neg (by simpa using hspoken)]

/-- Two segments below an entry point come back from small words. -/
theorem folderOfTag_tagOfFolder_of_titles_kebab :
    let r : Rule := {
      id := .text "areas"
      name := .text "Areas"
      folder := {
        pattern := some "Areas/**"
        entryPoint := some "Areas"
        recipe := some { convention := some .title } }
      tag := { entryPoint := some "area", recipe := some { convention := some .kebab } } }
    ∃ tag, (tagOfFolder r false "Areas/Home Office/Desk").outcome = .ok (some tag) ∧
      (folderOfTag r false tag).value = some "Areas/Home Office/Desk" :=
  folderOfTag_tagOfFolder_of_titles (s := "Home Office/Desk".toList) false false rfl (by decide)
    (.inl rfl) rfl rfl (by decide)
    (by
      rw [outcome_isMatch_glob (by decide) (by decide) (by decide) (by decide) rfl]
      exact congrArg Except.ok (by decide +kernel))
    ⟨["Home Office".toList, "Desk".toList], by decide, by
      intro s hs
      simp only [List.mem_cons, List.not_mem_nil, or_false] at hs
      rcases hs with rfl | rfl
      · refine ⟨["Home".toList, "Office".toList], by decide, ?_, by decide⟩
        intro w hw
        simp only [List.mem_cons, List.not_mem_nil, or_false] at hw
        rcases hw with rfl | rfl
        · exact ⟨'H', "ome".toList, rfl, by decide, by simp⟩
        · exact ⟨'O', "ffice".toList, rfl, by decide, by simp⟩
      · refine ⟨["Desk".toList], by decide, ?_, by decide⟩
        intro w hw
        rw [List.mem_singleton.1 hw]
        exact ⟨'D', "esk".toList, rfl, by decide, by simp⟩, by decide⟩
    (.inr ⟨"Areas", rfl, by decide⟩)

end FolderTag.Mapping
