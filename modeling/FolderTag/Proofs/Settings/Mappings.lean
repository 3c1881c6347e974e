import FolderTag.Proofs.Settings.Paths
import FolderTag.Proofs.Settings.Typed

/-! # Settings that are mappings

Loaded settings are mappings in every source, and they stay so under every operation that is given
mappings. -/

namespace FolderTag.Settings

open FolderTag.Document FolderTag.Files

variable {l : Layers} {s : Source} {op : Operation} {files : Tree} {path : String}

namespace Layers

/-- Every source that says something says a mapping. -/
def SayMappings (l : Layers) : Prop := ∀ s v, l.layer s = some v → IsMapping v

theorem SayMappings.replace (h : l.SayMappings) (s : Source) {t : Option Linked}
    (ht : ∀ u, t = some u → IsMapping u.value) : (l.replace s t).SayMappings := by
  intro u v hv
  by_cases hu : u = s
  · subst hu
    rw [layer_replace_self] at hv
    obtain ⟨x, hx, rfl⟩ := Option.map_eq_some_iff.1 hv
    exact ht x hx
  · rw [layer_replace_of_ne l t hu] at hv
    exact h u v hv

theorem SayMappings.opened (h : l.SayMappings) (s : Source) : (l.opened s).SayMappings := by
  rw [Layers.opened]
  split_ifs
  · refine h.replace s ?_
    rintro u ⟨⟩
    exact isMapping_nil
  · exact h

theorem SayMappings.isMapping_held (h : l.SayMappings) (s : Source) : IsMapping (l.held s).value := by
  rw [held]
  cases hcontent : l.content s with
  | none => exact isMapping_nil
  | some t => exact h s t.value (congrArg (Option.map Linked.value) hcontent)

end Layers

/-! ## One operation -/

/-- What is read from a settings file is a mapping. -/
theorem isMapping_of_readSettings {t : Linked} (h : readSettings files path = .ok t) :
    IsMapping t.value := by
  refine ⟨?_, hasDistinctNames_of_readSettings h⟩
  obtain rfl | ⟨text, entries, -, hentries⟩ := eq_or_readBlock_of_readSettings h
  · exact ⟨[], rfl⟩
  · exact ⟨entries, hentries⟩

/-- What an operation is given to load is a mapping, and what it is given to set has no name
twice. -/
def Operation.GivesMappings : Operation → Prop
  | .load v _ => IsMapping v
  | .set _ v _ => v.HasDistinctNames
  | .loadFile .. => True
  | .clear _ => True

namespace Layers

theorem SayMappings.run (h : l.SayMappings) (hop : op.GivesMappings) : (op.run l).2.SayMappings := by
  cases op with
  | loadFile files path s =>
      rw [Operation.run_loadFile]
      cases hread : readSettings files path with
      | ok t =>
          refine h.replace s ?_
          rintro u ⟨⟩
          exact isMapping_of_readSettings hread
      | error fault => exact h
  | load v s =>
      refine h.replace s ?_
      rintro u ⟨⟩
      exact hop
  | set key v s =>
      rw [Operation.run_set]
      cases hset : (l.opened s).set s key v with
      | ok l' =>
          obtain ⟨-, rfl⟩ := set_eq_ok_iff.1 hset
          refine (h.opened s).replace s ?_
          rintro u ⟨⟩
          exact ((h.opened s).isMapping_held s).putLinked hop (keyParts key)
      | error m => exact h.opened s
  | clear source =>
      intro t v hv
      obtain ⟨u, hu, rfl⟩ := Option.map_eq_some_iff.1 hv
      have hkept : l.content t = some u := (Option.ite_none_right_eq_some.1 hu).2
      exact h t u.value (congrArg (Option.map Linked.value) hkept)

/-- Settings that are mappings stay so, whatever is done to them with mappings. -/
theorem SayMappings.after (h : l.SayMappings) {ops : List Operation}
    (hops : ∀ op ∈ ops, op.GivesMappings) : (l.after ops).SayMappings := by
  induction ops generalizing l with
  | nil => exact h
  | cons op ops ih =>
      rw [List.forall_mem_cons] at hops
      exact ih (h.run hops.1) hops.2

theorem sayMappings_start : start.SayMappings := by
  intro s v hv
  cases s <;> cases hv
  exact ⟨⟨_, rfl⟩, by decide⟩

theorem sayMappings_of_load {environment : List (String × String)} {path : Option String}
    (h : load files environment path = .ok l) : l.SayMappings := by
  have hloaded := isLoaded_of_load h
  intro s v hv
  cases s with
  | defaults =>
      rw [hloaded.defaults] at hv
      exact sayMappings_start .defaults v hv
  | userFile =>
      obtain ⟨t, ht, rfl⟩ := Option.map_eq_some_iff.1 hv
      obtain ⟨path, hread⟩ := hloaded.userFile t ht
      exact isMapping_of_readSettings hread
  | environment =>
      obtain ⟨entries, rfl, hsections⟩ := hloaded.isStacked.environment.exists_entries hv
      exact ⟨⟨entries, rfl⟩, hsections.hasDistinctNames⟩
  | commandLine => simp [layer, hloaded.commandLine] at hv
  | run => simp [layer, hloaded.run] at hv

end Layers

end FolderTag.Settings
