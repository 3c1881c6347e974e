import FolderTag.Proofs.Settings.Mappings
import FolderTag.Proofs.Text.Blank

/-! # Writing settings

A value that is set under a key is found there, unless a source that covers its source says
something. What stands under other keys stays as it is, unless they lead to the value by a link: a
mapping that a document links to another place is changed there too. -/

namespace FolderTag.Settings

open FolderTag.Document

/-! ## One source among the others -/

namespace Source

/-- The sources that a source covers. -/
def below (s : Source) : List Source := all.takeWhile (· ≠ s)

/-- The sources that cover a source. -/
def above (s : Source) : List Source := (all.dropWhile (· ≠ s)).drop 1

theorem all_eq_append (s : Source) : all = s.below ++ s :: s.above := by cases s <;> rfl

theorem notMem_below (s : Source) : s ∉ s.below := by cases s <;> decide

theorem notMem_above (s : Source) : s ∉ s.above := by cases s <;> decide

end Source

theorem keyParts_ne_nil (key : String) : keyParts key ≠ [] := by
  rw [keyParts, ne_eq, List.map_eq_nil_iff]
  exact Text.splitAt_ne_nil _ _

namespace Layers

variable {l changed : Layers} {s u : Source} {key : String} {sources : List Source}

theorem sayingAt?_congr (h : changed.layer u = l.layer u) (key : String) :
    changed.sayingAt? key u = l.sayingAt? key u := by
  rw [sayingAt?, sayingAt?, h]

theorem found?_congr (h : ∀ u ∈ sources, changed.sayingAt? key u = l.sayingAt? key u) :
    changed.found? key sources = l.found? key sources := by
  rw [found?, found?, ← List.head?_filterMap, ← List.head?_filterMap]
  exact congrArg List.head? (List.filterMap_congr fun u hu => h u (List.mem_reverse.1 hu))

/-- One source is set apart from those that cover it and those that it covers. -/
theorem get?_eq_or (l : Layers) (key : String) (s : Source) : l.get? key =
    (l.found? key s.above).or ((l.sayingAt? key s).or (l.found? key s.below)) := by
  rw [get?_eq_found?, s.all_eq_append, List.append_cons, found?_append, found?_concat]

/-- Beside the one that is set, no source says anything else. -/
theorem found?_of_run_set {value : Value}
    (hset : (Operation.set key value s).run l = (.ok (), changed)) (hs : s ∉ sources)
    (other : String) : changed.found? other sources = l.found? other sources := by
  refine found?_congr fun u hu => sayingAt?_congr ?_ other
  have hlayer := Operation.layer_run (.set key value s) l (s := u) (by simp [Operation.target?])
    (by
      rw [Operation.target?, ne_eq, Option.some.injEq]
      rintro rfl
      exact hs hu)
  rwa [hset] at hlayer

theorem held_opened (l : Layers) (s : Source) : (l.opened s).held s = l.held s := by
  rw [opened]
  cases hcontent : l.content s with
  | none => simp [held, hcontent]
  | some t => simp

/-- Where every source says a mapping, a value can be set in each, and its source says then what it
held with the value put into it. -/
theorem exists_run_set (hmaps : l.SayMappings) (key : String) (value : Value) (s : Source) :
    ∃ changed entries, (Operation.set key value s).run l = (.ok (), changed) ∧
      (l.held s).value = .map entries ∧
      changed.layer s = some (putLinked value (keyParts key) (l.held s)).value := by
  obtain ⟨entries, hentries⟩ := (hmaps.isMapping_held s).exists_entries
  have hopened : ((l.opened s).held s).value = .map entries := by rwa [held_opened]
  obtain ⟨changed, hset⟩ : ∃ changed, (l.opened s).set s key value = .ok changed :=
    ⟨_, set_eq_ok_iff.2 ⟨⟨entries, hopened⟩, rfl⟩⟩
  refine ⟨changed, entries, ?_, hentries, ?_⟩
  · rw [Operation.run_set, hset]
  · obtain ⟨-, rfl⟩ := set_eq_ok_iff.1 hset
    rw [layer_replace_self, held_opened, Option.map_some]

theorem sayingAt?_eq_held (l : Layers) (key : String) (s : Source) :
    l.sayingAt? key s = (valueAt? (keyParts key) (l.held s).value).bind said? := by
  obtain ⟨k, ks, hkey⟩ := List.exists_cons_of_ne_nil (keyParts_ne_nil key)
  rw [sayingAt?, layer, held, hkey]
  cases l.content s <;> rfl

end Layers

end FolderTag.Settings
