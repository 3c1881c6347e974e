import FolderTag.Proofs.Document.Names
import Mathlib.Data.List.Induction

/-! # Fields under other entries

Entries that are put over fields one after the other: each field keeps its place and takes the value
that is given for it, and what is given beside them comes behind them as it is given. -/

namespace FolderTag.Document

namespace Value

variable {entries given : Entries} {fields : List (String × Value)} {key v : Value}
  {name : String}

/-- No key stands twice in a mapping. -/
def HasDistinctKeys (entries : Entries) : Prop :=
  entries.Pairwise fun e f => e.1.equal f.1 = false

instance (entries : Entries) : Decidable (HasDistinctKeys entries) :=
  inferInstanceAs (Decidable (entries.Pairwise fun e f => e.1.equal f.1 = false))

/-- Fields with the values that are given for them, and all else that is given. -/
def overridden (fields : List (String × Value)) (given : Entries) : Entries :=
  entriesOf (fields.map fun f => (f.1, (field? f.1 given).getD f.2)) ++
    given.filter fun e => !fields.any fun f => e.1.equal (.text f.1)

/-! ## Putting one entry -/

theorem put_of_forall_not_equal (h : ∀ e ∈ entries, e.1.equal key = false) (v : Value) :
    put key v entries = entries ++ [(key, v)] := by
  induction entries with
  | nil => rfl
  | cons e entries ih =>
      obtain ⟨k, w⟩ := e
      rw [List.forall_mem_cons] at h
      rw [put, if_neg (by simp [h.1]), ih h.2, List.cons_append]

theorem put_append_of_mem (h : name ∈ fields.map Prod.fst) (v : Value) (behind : Entries) :
    put (.text name) v (entriesOf fields ++ behind) =
      put (.text name) v (entriesOf fields) ++ behind := by
  induction fields with
  | nil => cases h
  | cons f fields ih =>
      rw [entriesOf_cons, List.cons_append, put, put, equal_text]
      by_cases hname : f.1 = name
      · simp [hname]
      · have hrest : name ∈ fields.map Prod.fst := by
          simpa [Ne.symm hname] using h
        simp [hname, ih hrest]

/-- The value of a field is changed where the field stands. -/
theorem put_entriesOf (hnodup : (fields.map Prod.fst).Nodup) (h : name ∈ fields.map Prod.fst)
    (v : Value) : put (.text name) v (entriesOf fields) =
      entriesOf (fields.map fun f => (f.1, if f.1 = name then v else f.2)) := by
  induction fields with
  | nil => cases h
  | cons f fields ih =>
      rw [List.map_cons, List.nodup_cons] at hnodup
      rw [List.map_cons, entriesOf_cons, entriesOf_cons, put, equal_text]
      by_cases hname : f.1 = name
      · have hothers : fields.map (fun f => (f.1, if f.1 = name then v else f.2)) = fields := by
          refine (List.map_congr_left fun g hg => ?_).trans (List.map_id fields)
          have hne : g.1 ≠ name := by
            rintro rfl
            exact hnodup.1 (hname ▸ List.mem_map_of_mem hg)
          rw [if_neg hne, id]
        simp [hname, hothers]
      · have hrest : name ∈ fields.map Prod.fst := by
          simpa [Ne.symm hname] using h
        simp [hname, ih hnodup.2 hrest]

/-! ## Putting entries one after the other -/

theorem field?_concat (name : String) (given : Entries) (key v : Value) :
    field? name (given ++ [(key, v)]) =
      (field? name given).or (if key.equal (.text name) then some v else none) := by
  induction given with
  | nil => simp [field?, find?]
  | cons e given ih =>
      obtain ⟨k, w⟩ := e
      rw [List.cons_append, field?_cons, field?_cons, ih]
      split_ifs <;> rfl

theorem field?_eq_none_of_not_equal (h : ∀ e ∈ given, e.1.equal (.text name) = false) :
    field? name given = none := by
  by_contra hsome
  obtain ⟨v, hv⟩ := Option.ne_none_iff_exists'.1 hsome
  have hequal := h _ (mem_of_field? hv)
  simp at hequal

/-- An entry under the name of a field gives the field its value. -/
theorem overridden_concat_field (hnodup : (fields.map Prod.fst).Nodup)
    (hname : name ∈ fields.map Prod.fst) (hnew : ∀ e ∈ given, e.1.equal (.text name) = false)
    (v : Value) :
    overridden fields (given ++ [(.text name, v)]) = put (.text name) v (overridden fields given) := by
  have hnone : field? name given = none := field?_eq_none_of_not_equal hnew
  have hlast : (fields.any fun f => (Value.text name).equal (.text f.1)) = true := by
    obtain ⟨f, hf, rfl⟩ := List.mem_map.1 hname
    exact List.any_eq_true.2 ⟨f, hf, by simp⟩
  rw [overridden, overridden, put_append_of_mem (by simpa using hname),
    put_entriesOf (by simpa [Function.comp_def] using hnodup) (by simpa using hname),
    List.filter_append, List.filter_singleton, hlast, List.map_map]
  congr 2
  · refine List.map_congr_left fun f _ => ?_
    rw [field?_concat, equal_text, Function.comp_apply]
    by_cases hf : f.1 = name
    · simp [hf, hnone]
    · simp [hf, Ne.symm hf]
  · simp

/-- An entry under any other key comes last. -/
theorem overridden_concat_other (hne : ∀ f ∈ fields, key ≠ .text f.1)
    (hnew : ∀ e ∈ given, e.1.equal key = false) (v : Value) :
    overridden fields (given ++ [(key, v)]) = put key v (overridden fields given) := by
  have hlast : (fields.any fun f => key.equal (.text f.1)) = false :=
    List.any_eq_false.2 fun f hf => mt equal_text_iff.1 (hne f hf)
  have hsame : fields.map (fun f => (f.1, (field? f.1 (given ++ [(key, v)])).getD f.2)) =
      fields.map fun f => (f.1, (field? f.1 given).getD f.2) := by
    refine List.map_congr_left fun f hf => ?_
    rw [field?_concat, if_neg (mt equal_text_iff.1 (hne f hf)), Option.or_none]
  have hnone : ∀ e ∈ overridden fields given, e.1.equal key = false := by
    intro e he
    rcases List.mem_append.1 he with he | he
    · obtain ⟨g, hg, rfl⟩ := List.mem_map.1 he
      obtain ⟨f, hf, rfl⟩ := List.mem_map.1 hg
      simpa using mt text_equal_iff.1 (hne f hf)
    · exact hnew e (List.mem_of_mem_filter he)
  rw [put_of_forall_not_equal hnone, overridden, overridden, hsame, List.filter_append,
    List.filter_singleton, hlast, List.append_assoc]
  simp

/-- Entries that are put over fields one after the other. -/
theorem foldl_put_eq_overridden (hnodup : (fields.map Prod.fst).Nodup)
    (h : HasDistinctKeys given) :
    given.foldl (fun acc (k, v) => put k v acc) (entriesOf fields) = overridden fields given := by
  induction given using List.reverseRecOn with
  | nil => simp [overridden, field?, find?]
  | append_singleton given e ih =>
      obtain ⟨key, v⟩ := e
      have hnew : ∀ e ∈ given, e.1.equal key = false :=
        fun e he => (List.pairwise_append.1 h).2.2 e he _ (List.mem_singleton.2 rfl)
      rw [List.foldl_append, ih (List.pairwise_append.1 h).1, List.foldl_cons, List.foldl_nil]
      by_cases hfield : ∃ name ∈ fields.map Prod.fst, key = .text name
      · obtain ⟨name, hname, rfl⟩ := hfield
        rw [overridden_concat_field hnodup hname hnew]
      · have hne : ∀ f ∈ fields, key ≠ .text f.1 :=
          fun f hf heq => hfield ⟨f.1, List.mem_map_of_mem hf, heq⟩
        rw [overridden_concat_other hne hnew]

end Value

end FolderTag.Document
