import FolderTag.Proofs.Settings.Layers
import FolderTag.Proofs.Settings.Operation

/-! # Sections of settings

The environment and the command line say sections of texts, numbers and truth values, and nothing
else: such a source hides nothing that lies below it under the key of a section and a name. -/

namespace FolderTag.Settings

open FolderTag.Document

variable {entries inner : Entries} {v : Value} {part name : String}

/-- A value that says something and has no parts. -/
structure IsPlain (v : Value) : Prop where
  ne_null : v ≠ .null
  ne_map : ∀ entries, v ≠ .map entries

/-- The entries of a section, each with a plain value. -/
structure IsSection (inner : Entries) : Prop where
  nodup : (Value.names inner).Nodup
  plain : ∀ e ∈ inner, IsPlain e.2

/-- Entries that are sections. -/
structure AreSections (entries : Entries) : Prop where
  nodup : (Value.names entries).Nodup
  sections : ∀ e ∈ entries, ∃ inner, e.2 = .map inner ∧ IsSection inner

theorem isSection_nil : IsSection [] := ⟨List.nodup_nil, by simp⟩

theorem areSections_nil : AreSections [] := ⟨List.nodup_nil, by simp⟩

theorem IsSection.put (h : IsSection inner) (key : Value) (hv : IsPlain v) :
    IsSection (Value.put key v inner) :=
  ⟨Value.nodup_names_put key v h.nodup, Value.forall_put hv h.plain⟩

/-- The section that a part of a key leads to is one, also if it is new. -/
theorem AreSections.isSection_sectionOr (h : AreSections entries) (part : String) :
    IsSection (sectionOr part entries) := by
  rw [sectionOr]
  split
  · rename_i inner hfield
    obtain ⟨found, hfound, hsection⟩ := h.sections _ (Value.mem_of_field? hfield)
    cases hfound
    exact hsection
  · exact isSection_nil

theorem AreSections.putAt (h : AreSections entries) (part name : String) (hv : IsPlain v) :
    AreSections (putAt v [part, name] entries) where
  nodup := Value.nodup_names_put _ _ h.nodup
  sections := by
    have hsection := (h.isSection_sectionOr part).put (.text name) hv
    exact Value.forall_put (P := fun v => ∃ inner, v = .map inner ∧ IsSection inner)
      ⟨_, rfl, hsection⟩ h.sections

theorem AreSections.hasDistinctNames (h : AreSections entries) :
    (Value.map entries).HasDistinctNames := by
  refine .map h.nodup fun e he => ?_
  obtain ⟨inner, hinner, hsection⟩ := h.sections e he
  rw [hinner]
  exact .map hsection.nodup fun f hf => .other (hsection.plain f hf).ne_map

/-- A section either lacks a name, or holds a plain value under it. -/
theorem AreSections.isPlain_of_valueAt? (h : AreSections entries)
    (hv : valueAt? [part, name] (.map entries) = some v) : IsPlain v := by
  obtain ⟨w, hw, hv⟩ := Option.bind_eq_some_iff.1 hv
  obtain ⟨inner, hinner, hsection⟩ := h.sections _ (Value.mem_of_field? hw)
  rw [show w = .map inner from hinner] at hv
  obtain ⟨x, hx, hv⟩ := Option.bind_eq_some_iff.1 hv
  cases hv
  exact hsection.plain _ (Value.mem_of_field? hx)

theorem AreSections.not_isBlocked (h : AreSections entries) (part name : String) :
    isBlocked [part, name] (.map entries) = false := by
  rw [isBlocked]
  cases hfield : Value.field? part entries with
  | none => rfl
  | some w =>
      obtain ⟨inner, hinner, hsection⟩ := h.sections _ (Value.mem_of_field? hfield)
      rw [show w = .map inner from hinner, Option.any_some, isBlocked]
      cases Value.field? name inner <;> rfl

/-! ## Sources of sections -/

/-- A source says nothing at all, or sections of which nothing stands anywhere else. -/
def Layers.SaysSections (l : Layers) (s : Source) : Prop :=
  ∀ t, l.content s = some t → ∃ entries, t = .plain (.map entries) ∧ AreSections entries

variable {l l' : Layers} {s : Source} {key : String}

theorem Layers.SaysSections.exists_entries (h : l.SaysSections s) (hv : l.layer s = some v) :
    ∃ entries, v = .map entries ∧ AreSections entries := by
  obtain ⟨t, ht, rfl⟩ := Option.map_eq_some_iff.1 hv
  obtain ⟨entries, rfl, hsections⟩ := h t ht
  exact ⟨entries, rfl, hsections⟩

theorem Layers.SaysSections.hasDistinctNames (h : l.SaysSections s) (hv : l.layer s = some v) :
    v.HasDistinctNames := by
  obtain ⟨entries, rfl, hsections⟩ := h.exists_entries hv
  exact hsections.hasDistinctNames

theorem Layers.SaysSections.isOpen (h : l.SaysSections s) (hkey : keyParts key = [part, name]) :
    l.IsOpen key s := by
  intro v hv
  obtain ⟨entries, rfl, hsections⟩ := h.exists_entries hv
  rw [hkey]
  exact ⟨hsections.not_isBlocked part name,
    fun hnull => (hsections.isPlain_of_valueAt? hnull).ne_null rfl⟩

/-- Setting a plain value in a section leaves a source of sections one. -/
theorem Layers.SaysSections.set_plain (h : l.SaysSections s) (hkey : keyParts key = [part, name])
    (hv : IsPlain v) (hset : l.set s key v = .ok l') : l'.SaysSections s := by
  obtain ⟨entries, hentries, hsections⟩ : ∃ entries,
      l.held s = .plain (.map entries) ∧ AreSections entries := by
    rw [held]
    cases hcontent : l.content s with
    | none => exact ⟨[], rfl, areSections_nil⟩
    | some t => exact h t hcontent
  obtain ⟨-, rfl⟩ := set_eq_ok_iff.1 hset
  intro t ht
  rw [content_replace_self, hentries, hkey, Option.some.injEq] at ht
  exact ⟨_, ht.symm, hsections.putAt part name hv⟩

/-! ## The environment -/

theorem isPlain_variableValue (text : String) : IsPlain (variableValue text) := by
  rw [variableValue]
  split_ifs
  · exact ⟨nofun, nofun⟩
  · exact ⟨nofun, nofun⟩
  · split <;> exact ⟨nofun, nofun⟩

theorem areSections_addVariable (h : AreSections entries) (given : String × String) :
    AreSections (addVariable entries given) := by
  rw [addVariable]
  split
  · exact h
  · exact h.putAt _ _ (isPlain_variableValue given.2)

theorem areSections_addVariables (h : AreSections entries) (environment : List (String × String)) :
    AreSections (environment.foldl addVariable entries) := by
  induction environment generalizing entries with
  | nil => exact h
  | cons given environment ih => exact ih (areSections_addVariable h given)

theorem sections_of_environmentLayer? {environment : List (String × String)}
    (h : environmentLayer? environment = some v) :
    ∃ entries, v = .map entries ∧ AreSections entries := by
  have hsections := areSections_addVariables areSections_nil environment
  rw [environmentLayer?] at h
  split at h
  · cases h
  · cases h
    exact ⟨_, rfl, hsections⟩

end FolderTag.Settings
