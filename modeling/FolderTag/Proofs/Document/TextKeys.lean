import FolderTag.Document.Obstacle
import FolderTag.Proofs.Document.Names

/-! # Values with text keys

Documents that are not written in blocks have only texts as keys. What holds of their parts: a part
has text keys, and no number that cannot be shown unless the whole has one. -/

namespace FolderTag.Document

variable {key scalar : Value → Option Obstacle} {items : List Value} {entries : Entries}
  {fields : List (String × Value)} {name : String} {v w : Value}

/-! ## Obstacles -/

theorem itemObstacle?_eq_none_iff :
    itemObstacle? key scalar items = none ↔ ∀ v ∈ items, v.firstObstacle? key scalar = none := by
  induction items with
  | nil => simp [itemObstacle?]
  | cons v items ih => simp [itemObstacle?, ih]

theorem entryObstacle?_eq_none_iff (hkey : ∀ s, key (.text s) = none) :
    entryObstacle? key scalar (Value.entriesOf fields) = none ↔
      ∀ f ∈ fields, f.2.firstObstacle? key scalar = none := by
  induction fields with
  | nil => simp [entryObstacle?]
  | cons f fields ih => simp [entryObstacle?, hkey, ih]

namespace Value

theorem isShowable_list_iff :
    (list items).isShowable = true ↔ ∀ v ∈ items, v.isShowable = true := by
  simp only [isShowable, Option.isNone_iff_eq_none]
  exact itemObstacle?_eq_none_iff

theorem isShowable_ofFields_iff :
    (ofFields fields).isShowable = true ↔ ∀ f ∈ fields, f.2.isShowable = true := by
  simp only [isShowable, Option.isNone_iff_eq_none]
  exact entryObstacle?_eq_none_iff fun _ => rfl

/-! ## Text keys -/

/-- All keys in a value are texts. -/
inductive HasTextKeys : Value → Prop
  | list {items : List Value} (h : ∀ v ∈ items, HasTextKeys v) : HasTextKeys (.list items)
  | map {fields : List (String × Value)} (h : ∀ f ∈ fields, HasTextKeys f.2) :
      HasTextKeys (ofFields fields)
  | other {v : Value} (hlist : ∀ items, v ≠ .list items) (hmap : ∀ entries, v ≠ .map entries) :
      HasTextKeys v

theorem HasTextKeys.null : HasTextKeys .null := .other nofun nofun

theorem HasTextKeys.text (s : String) : HasTextKeys (.text s) := .other nofun nofun

theorem HasTextKeys.of_mem (h : HasTextKeys (.list items)) : ∀ v ∈ items, HasTextKeys v := by
  cases h with
  | list h => exact h
  | other hlist _ => exact absurd rfl (hlist items)

theorem HasTextKeys.exists_fields (h : HasTextKeys (.map entries)) :
    ∃ fields, entries = entriesOf fields ∧ ∀ f ∈ fields, HasTextKeys f.2 := by
  generalize hv : Value.map entries = v at h
  cases h with
  | list _ => cases hv
  | @map fields h => exact ⟨fields, Value.map.inj hv, h⟩
  | other _ hmap => exact absurd hv.symm (hmap entries)

theorem HasTextKeys.of_field? (h : HasTextKeys (.map entries)) (hv : field? name entries = some v) :
    v.HasTextKeys := by
  obtain ⟨fields, rfl, hfields⟩ := h.exists_fields
  obtain ⟨f, hf, heq⟩ := List.mem_map.1 (mem_of_field? hv)
  cases heq
  exact hfields f hf

/-- What cannot be shown of a field cannot be shown of the mapping. -/
theorem HasTextKeys.not_isShowable (h : HasTextKeys (.map entries))
    (hv : field? name entries = some v) (hshow : v.isShowable = false) :
    (Value.map entries).isShowable = false := by
  obtain ⟨fields, rfl, -⟩ := h.exists_fields
  obtain ⟨f, hf, heq⟩ := List.mem_map.1 (mem_of_field? hv)
  cases heq
  by_contra hwhole
  rw [Bool.not_eq_false, ← ofFields_eq, isShowable_ofFields_iff] at hwhole
  rw [hwhole f hf] at hshow
  cases hshow

end Value

end FolderTag.Document
