import FolderTag.Proofs.Settings.Mappings
import Mathlib.Data.List.Induction

/-! # The merged view

What the merged view holds under a key, if it says something there that has no parts, is what is
found under the key in one source after the other. -/

namespace FolderTag.Settings

open FolderTag.Document

variable {l : Layers} {sources : List Source} {s : Source} {key : String} {v : Value}
  {base entries merged : Entries} {ks : List String}

/-- A plain value that a mapping has after it was laid over another one is its own, or it is what
the other one has if it has nothing itself. -/
theorem of_valueAt?_mergeEntries (hnames : (Value.map entries).HasDistinctNames) (hplain : IsPlain v)
    (hv : valueAt? ks (.map (mergeEntries base entries)) = some v) :
    valueAt? ks (.map entries) = some v ∨
      valueAt? ks (.map entries) = none ∧ valueAt? ks (.map base) = some v := by
  rw [← mergeValue_map, valueAt?_mergeValue ks _ hnames] at hv
  cases hown : valueAt? ks (.map entries) with
  | none =>
      rw [hown] at hv
      dsimp only at hv
      split_ifs at hv
      exact .inr ⟨rfl, hv⟩
  | some w =>
      rw [hown, Option.some.injEq] at hv
      have hmap : ∀ inner, w ≠ .map inner := by
        rintro inner rfl
        obtain ⟨whole, hwhole⟩ :=
          exists_mergeValue_map ((some (.map base)).bind (valueAt? ks)) inner
        exact hplain.ne_map whole (hv.symm.trans hwhole)
      rw [mergeValue_of_ne_map _ hmap] at hv
      exact .inl (congrArg some hv)

namespace Layers

/-- Mappings can be merged, over whatever they are laid. -/
theorem SayMappings.exists_mergeSources (h : l.SayMappings) (sources : List Source)
    (base : Entries) : ∃ merged, l.mergeSources sources base = .ok merged := by
  induction sources generalizing base with
  | nil => exact ⟨base, rfl⟩
  | cons s sources ih =>
      rw [mergeSources]
      cases hlayer : l.layer s with
      | none => exact ih base
      | some v =>
          obtain ⟨entries, rfl⟩ := (h s v hlayer).exists_entries
          exact ih (mergeEntries base entries)

/-- The last source is looked at first, and lies on top in the merged view: the induction takes the
sources off from there. -/
theorem SayMappings.found?_of_merged (h : l.SayMappings)
    (hplain : IsPlain v) (hmerged : l.mergeSources sources [] = .ok merged)
    (hv : valueAt? (keyParts key) (.map merged) = some v) : l.found? key sources = some v := by
  induction sources using List.reverseRecOn generalizing merged with
  | nil =>
      cases hmerged
      cases hkey : keyParts key with
      | nil =>
          rw [hkey, valueAt?, Option.some.injEq] at hv
          exact absurd hv.symm (hplain.ne_map [])
      | cons k ks => simp [hkey, valueAt?_cons_map, Value.field?, Value.find?] at hv
  | append_singleton sources s ih =>
      rw [found?_concat]
      obtain ⟨base, hbase, ⟨hnone, rfl⟩ | ⟨entries, hlayer, rfl⟩⟩ :=
        mergeSources_concat_iff.1 hmerged
      · rw [show l.sayingAt? key s = none by simp [sayingAt?, hnone], Option.none_or]
        exact ih hbase hv
      · rcases of_valueAt?_mergeEntries (h s _ hlayer).distinct hplain hv with hown | ⟨hnone, hbelow⟩
        · rw [sayingAt?_eq_some_iff.2 ⟨_, hlayer, hown, hplain.ne_null⟩, Option.some_or]
        · rw [show l.sayingAt? key s = none by simp [sayingAt?, hlayer, hnone], Option.none_or]
          exact ih hbase hbelow

/-- Sources that say mappings can be merged, and what the merged view holds under a key is found
there when one source is asked after the other, if it is something and no mapping. -/
theorem get?_of_merged (h : l.SayMappings) :
    ∃ merged, l.merged = .ok merged ∧
      ∀ (key : String) (v : Value), valueAt? (keyParts key) (.map merged) = some v →
        v ≠ .null → (∀ entries, v ≠ .map entries) → l.get? key = some v := by
  obtain ⟨merged, hmerged⟩ := h.exists_mergeSources Source.all []
  refine ⟨merged, hmerged, fun key v hv hnull hmap => ?_⟩
  exact h.found?_of_merged ⟨hnull, hmap⟩ hmerged hv

/-- A scalar covers a section, and a section over it covers the scalar. -/
theorem get?_of_merged_covered_scalar :
    let l := ((start.replace .userFile (some (.plain (.ofFields [("logging", .int 3)])))).replace
      .environment (some (.plain (.ofFields [("logging", .ofFields [("level", .text "INFO")])])))
      ).replace .run (some (.plain (.ofFields [("logging", .ofFields [("file", .text "f")])])))
    ∃ merged, l.merged = .ok merged ∧
      valueAt? (keyParts "logging.level") (.map merged) = some (.text "INFO") ∧
      l.get? "logging.level" = some (.text "INFO") := by
  intro l
  have hmaps : l.SayMappings := by
    intro s v hv
    cases s <;> cases hv <;> exact ⟨⟨_, rfl⟩, by decide⟩
  obtain ⟨merged, hmerged, hview⟩ := get?_of_merged hmaps
  have hheld : valueAt? (keyParts "logging.level") (.map merged) = some (.text "INFO") := by
    have hkey : keyParts "logging.level" = ["logging", "level"] := by decide
    have h : l.merged.toOption.bind (fun m => valueAt? ["logging", "level"] (.map m)) =
        some (.text "INFO") := rfl
    rwa [hmerged, ← hkey] at h
  exact ⟨merged, hmerged, hheld, hview _ _ hheld nofun nofun⟩

end Layers

end FolderTag.Settings
