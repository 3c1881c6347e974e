import FolderTag.Proofs.Document.Fields
import FolderTag.Proofs.Outcome
import FolderTag.Rule.Violation

/-! # Fields of stored rules

A mapping that is written from a list of fields, of which some hold nothing, is taken apart into the
same fields. -/

namespace FolderTag.Rule

open FolderTag.Document

variable {known : List String} {fields : List (String × Value)} {what name : String} {v d : Value}
  {slots : List (String × Option Value)}

/-! ## Known fields -/

theorem strangeKeys_entriesOf (h : ∀ f ∈ fields, f.1 ∈ known) :
    strangeKeys known (Value.entriesOf fields) = .ok [] := by
  have hnone : ((Value.entriesOf fields).map (·.1)).filter
      (fun k => !known.any fun n => k.equal (.text n)) = [] := by
    rw [List.filter_eq_nil_iff]
    intro k hk
    obtain ⟨f, hf, rfl⟩ : ∃ f ∈ fields, Value.text f.1 = k := by
      simpa [Value.entriesOf] using hk
    simpa using h f hf
  simp [strangeKeys, hnone, keyNames]

theorem knownFields_ofFields (h : ∀ f ∈ fields, f.1 ∈ known) :
    knownFields what known (Value.ofFields fields) = .ok (Value.entriesOf fields) := by
  rw [Value.ofFields_eq, knownFields, strangeKeys_entriesOf h]

/-! ## Fields that hold something -/

theorem map_fst_setFields_sublist (slots : List (String × Option Value)) :
    ((setFields slots).map Prod.fst).Sublist (slots.map Prod.fst) := by
  induction slots with
  | nil => exact .slnil
  | cons slot slots ih =>
      obtain ⟨name, _ | v⟩ := slot
      · exact ih.cons name
      · exact ih.cons_cons name

theorem mem_setFields_iff {f : String × Value} :
    f ∈ setFields slots ↔ (f.1, some f.2) ∈ slots := by
  obtain ⟨name, v⟩ := f
  simp [setFields]

theorem setFields_append (slots others : List (String × Option Value)) :
    setFields (slots ++ others) = setFields slots ++ setFields others := List.filterMap_append

theorem lookup_setFields (h : (slots.map Prod.fst).Nodup) :
    (setFields slots).lookup name = (slots.lookup name).join := by
  induction slots with
  | nil => rfl
  | cons slot slots ih =>
      obtain ⟨k, held⟩ := slot
      rw [List.map_cons, List.nodup_cons] at h
      by_cases hname : name = k
      · subst hname
        cases held with
        | some v => simp [setFields]
        | none =>
            have hmissing : (setFields slots).lookup name = none := by
              rw [List.lookup_eq_none_iff]
              rintro f hf
              have hfst := (map_fst_setFields_sublist slots).subset (List.mem_map_of_mem hf)
              simpa using fun heq : name = f.1 => h.1 (heq ▸ hfst)
            simpa [setFields] using hmissing
      · have hne : (name == k) = false := by simpa using hname
        cases held with
        | some v => simpa [setFields, List.lookup_cons, hne] using ih h.2
        | none => simpa [setFields, List.lookup_cons, hne] using ih h.2

theorem fieldOr_setFields (h : (slots.map Prod.fst).Nodup) :
    fieldOr (Value.entriesOf (setFields slots)) name d =
      ((slots.lookup name).join).getD d := by
  rw [fieldOr, Value.field?_entriesOf, lookup_setFields h]

theorem mem_names_setFields_iff :
    name ∈ (setFields slots).map Prod.fst ↔ ∃ v, (name, some v) ∈ slots := by
  constructor
  · intro h
    obtain ⟨f, hf, rfl⟩ := List.mem_map.1 h
    exact ⟨f.2, mem_setFields_iff.1 hf⟩
  · rintro ⟨v, hv⟩
    exact List.mem_map_of_mem (mem_setFields_iff (f := (name, v)).2 hv)

theorem mem_of_mem_setFields (h : slots.map Prod.fst ⊆ known) :
    ∀ f ∈ setFields slots, f.1 ∈ known :=
  fun _ hf => h (List.mem_map_of_mem (mem_setFields_iff.1 hf))

/-! ## Single fields -/

@[simp] theorem getD_present? (v : Value) : (present? v).getD .null = v := by
  cases v <;> rfl

theorem getD_present?_of_ne (h : v ≠ .null) : (present? v).getD d = v := by
  cases v with
  | null => exact absurd rfl h
  | _ => rfl

theorem getD_present?_ne_null (hd : d ≠ .null) : (present? v).getD d ≠ .null := by
  by_cases h : v = .null
  · rwa [h]
  · rwa [getD_present?_of_ne h]

theorem eq_of_mem_present? {w : Value} (h : w ∈ present? v) : w = v := by
  rw [← getD_present? v, Option.mem_def.1 h, Option.getD_some]

@[simp] theorem readText_getD (field : String) (s : Option String) :
    readText field ((s.map Value.text).getD .null) = .ok s := by
  cases s <;> rfl

section Choice

variable {α : Type} [Choice α] (h : ∀ a : α, Choice.ofName? (Choice.name a) = some a)

include h

/-- A choice is read again where its name tells it apart from the others. -/
theorem readChoice_value (a : α) : readChoice α (Choice.value a) = .ok (some a) := by
  simp [readChoice, Choice.value, Choice.ofValue?, h a]

theorem readChoice_getD (choice : Option α) :
    readChoice α ((choice.map Choice.value).getD .null) = .ok choice := by
  cases choice with
  | none => rfl
  | some a => exact readChoice_value h a

end Choice

end FolderTag.Rule
