import FolderTag.Document.Linked
import FolderTag.Proofs.Document.Names

/-! # Values with their links

What the entries of a linked mapping hold without the links, and what is left alone when a mapping
is changed at all its places. -/

namespace FolderTag.Document

namespace Linked

variable {entries : List (Value × Linked)} {t : Linked} {name : String} {mark : Nat}
  {f : Linked → Linked}

/-! ## Values without their links -/

theorem entryValues_put (key : Value) (t : Linked) (entries : List (Value × Linked)) :
    entryValues (Value.put key t entries) = Value.put key t.value (entryValues entries) := by
  induction entries with
  | nil => rfl
  | cons e entries ih =>
      obtain ⟨k, u⟩ := e
      rw [Value.put, entryValues, Value.put]
      split_ifs
      · rfl
      · rw [entryValues, ih]

theorem field?_cons (name : String) (k : Value) (t : Linked) (entries : List (Value × Linked)) :
    Value.field? name ((k, t) :: entries) =
      if k.equal (.text name) then some t else Value.field? name entries := rfl

theorem field?_entryValues (name : String) (entries : List (Value × Linked)) :
    Value.field? name (entryValues entries) = (Value.field? name entries).map value := by
  induction entries with
  | nil => rfl
  | cons e entries ih =>
      obtain ⟨k, t⟩ := e
      rw [entryValues, Value.field?_cons, field?_cons]
      split_ifs
      · rfl
      · exact ih

theorem field?_changeEntries (name : String) (mark : Nat) (f : Linked → Linked)
    (entries : List (Value × Linked)) :
    Value.field? name (changeEntries mark f entries) =
      (Value.field? name entries).map (change mark f) := by
  induction entries with
  | nil => rfl
  | cons e entries ih =>
      obtain ⟨k, t⟩ := e
      rw [changeEntries, field?_cons, field?_cons]
      split_ifs
      · rfl
      · exact ih

/-! ## Marks -/

mutual

/-- The marks of the mappings in a value, each as often as its mapping stands there. -/
def marks : Linked → List Nat
  | .plain _ => []
  | .list items => itemMarks items
  | .map mark entries => mark :: entryMarks entries

def itemMarks : List Linked → List Nat
  | [] => []
  | t :: ts => t.marks ++ itemMarks ts

def entryMarks : List (Value × Linked) → List Nat
  | [] => []
  | (_, t) :: rest => t.marks ++ entryMarks rest

end

theorem marks_sublist_of_field? (h : Value.field? name entries = some t) :
    t.marks.Sublist (entryMarks entries) := by
  induction entries with
  | nil => cases h
  | cons e entries ih =>
      obtain ⟨k, u⟩ := e
      rw [field?_cons] at h
      rw [entryMarks]
      split_ifs at h
      · cases h
        exact List.sublist_append_left ..
      · exact (ih h).trans (List.sublist_append_right ..)

mutual

/-- A mapping is changed at its places and nowhere else. -/
theorem change_of_notMem (t : Linked) (h : mark ∉ t.marks) : t.change mark f = t := by
  match t with
  | .plain v => rfl
  | .list items => rw [change, changeItems_of_notMem items h]
  | .map m entries =>
      rw [marks, List.mem_cons, not_or] at h
      rw [change, if_neg (Ne.symm h.1), changeEntries_of_notMem entries h.2]

theorem changeItems_of_notMem (items : List Linked) (h : mark ∉ itemMarks items) :
    changeItems mark f items = items := by
  match items with
  | [] => rfl
  | t :: ts =>
      rw [itemMarks, List.mem_append, not_or] at h
      rw [changeItems, change_of_notMem t h.1, changeItems_of_notMem ts h.2]

theorem changeEntries_of_notMem (entries : List (Value × Linked)) (h : mark ∉ entryMarks entries) :
    changeEntries mark f entries = entries := by
  match entries with
  | [] => rfl
  | (k, t) :: rest =>
      rw [entryMarks, List.mem_append, not_or] at h
      rw [changeEntries, change_of_notMem t h.1, changeEntries_of_notMem rest h.2]

end

/-- What stands below two entries stands at two places. -/
theorem count_marks_add_le {u : Linked} {other : String} (mark : Nat)
    (ht : Value.field? name entries = some t) (hu : Value.field? other entries = some u)
    (hne : other ≠ name) :
    t.marks.count mark + u.marks.count mark ≤ (entryMarks entries).count mark := by
  induction entries with
  | nil => cases ht
  | cons e entries ih =>
      obtain ⟨k, x⟩ := e
      rw [field?_cons] at ht hu
      rw [entryMarks, List.count_append]
      split_ifs at ht hu with hk ho ho
      · rw [Value.equal_text_iff] at hk ho
        exact absurd (Value.text.inj (ho.symm.trans hk)) hne
      · cases ht
        exact Nat.add_le_add_left ((marks_sublist_of_field? hu).count_le mark) _
      · cases hu
        rw [Nat.add_comm]
        exact Nat.add_le_add_left ((marks_sublist_of_field? ht).count_le mark) _
      · exact Nat.le_trans (ih ht hu) (Nat.le_add_left ..)

/-! ## Names -/

theorem keys_changeEntries (mark : Nat) (f : Linked → Linked) (entries : List (Value × Linked)) :
    (entryValues (changeEntries mark f entries)).map Prod.fst =
      (entryValues entries).map Prod.fst := by
  induction entries with
  | nil => rfl
  | cons e entries ih => exact congrArg (e.1 :: ·) ih

mutual

/-- Names stay distinct wherever a mapping stands that is changed, if they do in the mapping. -/
theorem hasDistinctNames_change
    (hf : ∀ entries, (Linked.map mark entries).value.HasDistinctNames →
      (f (.map mark entries)).value.HasDistinctNames)
    (t : Linked) (h : t.value.HasDistinctNames) : (t.change mark f).value.HasDistinctNames := by
  match t with
  | .plain v => exact h
  | .list items => exact .other (by simp [change, value])
  | .map m entries =>
      rw [change]
      split_ifs with hm
      · subst hm
        exact hf entries h
      · refine .map ?_ (hasDistinctNames_changeEntries hf entries h.of_mem)
        rw [Value.names, keys_changeEntries]
        exact h.nodup

theorem hasDistinctNames_changeEntries
    (hf : ∀ entries, (Linked.map mark entries).value.HasDistinctNames →
      (f (.map mark entries)).value.HasDistinctNames)
    (entries : List (Value × Linked)) (h : ∀ e ∈ entryValues entries, e.2.HasDistinctNames) :
    ∀ e ∈ entryValues (changeEntries mark f entries), e.2.HasDistinctNames := by
  match entries with
  | [] => exact h
  | (k, t) :: rest =>
      rw [entryValues, List.forall_mem_cons] at h
      rw [changeEntries, entryValues, List.forall_mem_cons]
      exact ⟨hasDistinctNames_change hf t h.1, hasDistinctNames_changeEntries hf rest h.2⟩

end

end Linked

end FolderTag.Document
