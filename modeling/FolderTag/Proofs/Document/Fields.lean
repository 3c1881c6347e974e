import FolderTag.Document.Value
import Mathlib.Data.List.Basic

/-! # Mappings with text keys -/

namespace FolderTag.Document

namespace Value

variable {fields done old new : List (String × Value)} {name : String} {v : Value}

@[simp] theorem equal_text (s t : String) : (Value.text s).equal (.text t) = (s == t) := rfl

/-- The entries of a mapping with text keys. -/
def entriesOf (fields : List (String × Value)) : Entries := fields.map fun (k, v) => (.text k, v)

theorem ofFields_eq (fields : List (String × Value)) : ofFields fields = .map (entriesOf fields) := rfl

@[simp] theorem entriesOf_nil : entriesOf [] = [] := rfl

@[simp] theorem entriesOf_cons (f : String × Value) :
    entriesOf (f :: fields) = (.text f.1, f.2) :: entriesOf fields := rfl

theorem keys_entriesOf (fields : List (String × Value)) :
    (entriesOf fields).map Prod.fst = (fields.map Prod.fst).map Value.text := by
  rw [entriesOf, List.map_map, List.map_map]
  rfl

theorem field?_entriesOf (name : String) (fields : List (String × Value)) :
    field? name (entriesOf fields) = fields.lookup name := by
  induction fields with
  | nil => rfl
  | cons f fields ih =>
      rw [field?, entriesOf_cons, find?, equal_text, List.lookup_cons]
      by_cases h : f.1 = name
      · simp [h]
      · have hne : (name == f.1) = false := by simpa using Ne.symm h
        simp only [beq_iff_eq, if_neg h, hne]
        exact ih

theorem hasField_entriesOf_iff :
    hasField name (entriesOf fields) = true ↔ name ∈ fields.map Prod.fst := by
  rw [hasField, field?_entriesOf, List.lookup_isSome_iff, List.mem_map]
  simp only [beq_iff_eq, eq_comm (a := name)]

/-! ## Putting entries -/

/-- Putting a value under a key leaves the keys that are there as they are. -/
theorem keys_prefix_put (key value : Value) (entries : Entries) :
    entries.map Prod.fst <+: (put key value entries).map Prod.fst := by
  induction entries with
  | nil => exact List.nil_prefix
  | cons e entries ih =>
      obtain ⟨k, w⟩ := e
      rw [put]
      split_ifs
      · exact List.prefix_rfl
      · exact List.cons_prefix_cons.2 ⟨rfl, ih⟩

theorem keys_prefix_foldl_put (given entries : Entries) : entries.map Prod.fst <+:
    (given.foldl (fun acc (k, v) => put k v acc) entries).map Prod.fst := by
  induction given generalizing entries with
  | nil => exact List.prefix_rfl
  | cons e given ih => exact (keys_prefix_put e.1 e.2 entries).trans (ih _)

/-- A new name comes last. -/
theorem put_of_notMem (h : name ∉ fields.map Prod.fst) :
    put (.text name) v (entriesOf fields) = entriesOf (fields ++ [(name, v)]) := by
  induction fields with
  | nil => rfl
  | cons f fields ih =>
      rw [List.map_cons, List.mem_cons, not_or] at h
      rw [List.cons_append, entriesOf_cons, entriesOf_cons, put, equal_text,
        if_neg (by simpa using Ne.symm h.1), ih h.2]

/-- A known name keeps its place. -/
theorem put_append_cons (h : name ∉ done.map Prod.fst) (w : Value) :
    put (.text name) v (entriesOf (done ++ (name, w) :: old)) =
      entriesOf (done ++ (name, v) :: old) := by
  induction done with
  | nil => simp [put]
  | cons f done ih =>
      rw [List.map_cons, List.mem_cons, not_or] at h
      rw [List.cons_append, List.cons_append, entriesOf_cons, entriesOf_cons, put, equal_text,
        if_neg (by simpa using Ne.symm h.1), ih h.2]

theorem fst_notMem_of_nodup {f : String × Value}
    (h : ((done ++ f :: new).map Prod.fst).Nodup) : f.1 ∉ done.map Prod.fst := by
  intro hmem
  rw [List.map_append, List.map_cons] at h
  exact (List.nodup_append.1 h).2.2 _ hmem _ (List.mem_cons_self ..) rfl

/-- Entries that begin with the names of older ones take their places, and the others come behind
them. -/
theorem foldl_put (done : List (String × Value)) (hnames : old.map Prod.fst <+: new.map Prod.fst)
    (hnodup : ((done ++ new).map Prod.fst).Nodup) :
    (entriesOf new).foldl (fun acc (k, v) => put k v acc) (entriesOf (done ++ old)) =
      entriesOf (done ++ new) := by
  induction new generalizing done old with
  | nil =>
      have hold : old = [] := by simpa using hnames
      rw [hold]
      rfl
  | cons f new ih =>
      have hfresh : f.1 ∉ done.map Prod.fst := fst_notMem_of_nodup hnodup
      have hnext : (((done ++ [f]) ++ new).map Prod.fst).Nodup := by simpa using hnodup
      simp only [entriesOf_cons, List.foldl_cons]
      cases old with
      | nil =>
          rw [List.append_nil, put_of_notMem hfresh]
          have hnone : ([] : List (String × Value)).map Prod.fst <+: new.map Prod.fst :=
            List.nil_prefix
          simpa using ih (done ++ [f]) hnone hnext
      | cons g old =>
          rw [List.map_cons, List.map_cons, List.cons_prefix_cons] at hnames
          obtain ⟨hname, hnames⟩ := hnames
          obtain ⟨k, w⟩ := g
          subst hname
          rw [put_append_cons hfresh]
          simpa using ih (done ++ [f]) hnames hnext

end Value

end FolderTag.Document
