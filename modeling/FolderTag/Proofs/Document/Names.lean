import FolderTag.Proofs.Document.Fields

/-! # Names in mappings

A mapping may have keys of any kind, and only its text keys are looked up. A value in which no name
stands twice in one mapping keeps this when entries are put into it. -/

namespace FolderTag.Document

namespace Value

variable {entries : Entries} {k key v : Value} {name : String}

/-! ## Keys that are texts -/

theorem equal_text_iff : k.equal (.text name) = true ↔ k = .text name := by
  cases k <;> simp [equal, compareNumbers, whole?]

theorem text_equal_iff : (Value.text name).equal key = true ↔ key = .text name := by
  cases key with
  | text s => simpa using eq_comm
  | _ => simp [equal, compareNumbers, whole?]

theorem field?_cons (k v : Value) (entries : Entries) :
    field? name ((k, v) :: entries) =
      if k.equal (.text name) then some v else field? name entries := rfl

theorem field?_cons_self (v : Value) (entries : Entries) :
    field? name ((.text name, v) :: entries) = some v := by
  rw [field?_cons, if_pos (equal_text_iff.2 rfl)]

theorem field?_cons_of_ne (v : Value) (entries : Entries) (h : k ≠ .text name) :
    field? name ((k, v) :: entries) = field? name entries := by
  rw [field?_cons, if_neg (mt equal_text_iff.1 h)]

theorem mem_of_field? (h : field? name entries = some v) : (.text name, v) ∈ entries := by
  induction entries with
  | nil => cases h
  | cons e entries ih =>
      obtain ⟨k, w⟩ := e
      by_cases hk : k = .text name
      · subst hk
        rw [field?_cons_self, Option.some.injEq] at h
        subst h
        exact List.mem_cons_self ..
      · rw [field?_cons_of_ne w entries hk] at h
        exact List.mem_cons_of_mem _ (ih h)

@[simp] theorem field?_put_self (v : Value) (entries : Entries) :
    field? name (put (.text name) v entries) = some v := by
  induction entries with
  | nil => exact field?_cons_self v []
  | cons e entries ih =>
      obtain ⟨k, w⟩ := e
      rw [put]
      split_ifs with hk
      · rw [field?_cons, if_pos hk]
      · rw [field?_cons, if_neg hk, ih]

theorem field?_put_of_ne (v : Value) (entries : Entries) (h : key ≠ .text name) :
    field? name (put key v entries) = field? name entries := by
  induction entries with
  | nil => exact field?_cons_of_ne v [] h
  | cons e entries ih =>
      obtain ⟨k, w⟩ := e
      rw [put]
      split_ifs with hk
      · have hne : k ≠ .text name := by
          rintro rfl
          exact h (text_equal_iff.1 hk)
        rw [field?_cons_of_ne v entries hne, field?_cons_of_ne w entries hne]
      · rw [field?_cons, field?_cons, ih]

/-- What holds of the values of a mapping and of a new one holds when the new one is put in. -/
theorem forall_put {P : Value → Prop} (hv : P v) (h : ∀ e ∈ entries, P e.2) :
    ∀ e ∈ put key v entries, P e.2 := by
  induction entries with
  | nil => simpa [put] using hv
  | cons e entries ih =>
      obtain ⟨k, w⟩ := e
      rw [List.forall_mem_cons] at h
      rw [put]
      split_ifs
      · exact List.forall_mem_cons.2 ⟨hv, h.2⟩
      · exact List.forall_mem_cons.2 ⟨h.1, ih h.2⟩

/-- A key that is new comes last. -/
theorem keys_put (key v : Value) (entries : Entries) : (put key v entries).map Prod.fst =
    if entries.any (·.1.equal key) then entries.map Prod.fst
    else entries.map Prod.fst ++ [key] := by
  induction entries with
  | nil => rfl
  | cons e entries ih =>
      obtain ⟨k, w⟩ := e
      rw [put, List.any_cons]
      by_cases hk : k.equal key = true
      · simp [hk]
      · rw [if_neg hk, List.map_cons, ih]
        by_cases hany : entries.any (·.1.equal key) = true <;> simp [hk, hany]

/-! ## Distinct names -/

/-- The names among the keys of a mapping. -/
def names (entries : Entries) : List String := (entries.map Prod.fst).filterMap text?

theorem names_sublist_cons (e : Value × Value) (entries : Entries) :
    (names entries).Sublist (names (e :: entries)) :=
  ((List.sublist_cons_self e entries).map Prod.fst).filterMap text?

theorem mem_filterMap_text?_iff {keys : List Value} :
    name ∈ keys.filterMap text? ↔ .text name ∈ keys := by
  rw [List.mem_filterMap]
  constructor
  · rintro ⟨k, hk, htext⟩
    cases k with
    | text s => cases htext; exact hk
    | _ => cases htext
  · intro h
    exact ⟨_, h, rfl⟩

theorem field?_eq_none_of_notMem (h : name ∉ names entries) : field? name entries = none := by
  by_contra hsome
  obtain ⟨v, hv⟩ := Option.ne_none_iff_exists'.1 hsome
  exact h (mem_filterMap_text?_iff.2 (List.mem_map_of_mem (mem_of_field? hv)))

theorem nodup_names_put (key v : Value) (h : (names entries).Nodup) :
    (names (put key v entries)).Nodup := by
  rw [names, keys_put]
  split_ifs with hany
  · exact h
  · rw [List.filterMap_append]
    refine List.nodup_append.2 ⟨h, ?_, ?_⟩
    · cases hkey : key.text? <;> simp [hkey]
    · rintro s hs t ht rfl
      rw [mem_filterMap_text?_iff, List.mem_singleton] at ht
      obtain ⟨e, he, hkey⟩ := List.mem_map.1 (mem_filterMap_text?_iff.1 hs)
      refine hany (List.any_eq_true.2 ⟨e, he, ?_⟩)
      rw [hkey, ← ht]
      exact equal_text_iff.2 rfl

/-- No name stands twice in a mapping, in the value or anywhere below it. -/
inductive HasDistinctNames : Value → Prop
  | map {entries : Entries} (hnames : (names entries).Nodup)
      (h : ∀ e ∈ entries, HasDistinctNames e.2) : HasDistinctNames (.map entries)
  | other {v : Value} (h : ∀ entries, v ≠ .map entries) : HasDistinctNames v

theorem HasDistinctNames.nodup (h : HasDistinctNames (.map entries)) : (names entries).Nodup := by
  cases h with
  | map hnames _ => exact hnames
  | other h => exact absurd rfl (h entries)

theorem HasDistinctNames.of_mem (h : HasDistinctNames (.map entries)) :
    ∀ e ∈ entries, HasDistinctNames e.2 := by
  cases h with
  | map _ h => exact h
  | other h => exact absurd rfl (h entries)

theorem HasDistinctNames.put (h : HasDistinctNames (.map entries)) (key : Value)
    (hv : HasDistinctNames v) : HasDistinctNames (.map (put key v entries)) :=
  .map (nodup_names_put key v h.nodup) (forall_put hv h.of_mem)

theorem hasDistinctNames_nil : HasDistinctNames (.map []) := .map List.nodup_nil (by simp)

theorem hasDistinctNames_map_iff : HasDistinctNames (.map entries) ↔
    (names entries).Nodup ∧ ∀ e ∈ entries, HasDistinctNames e.2 :=
  ⟨fun h => ⟨h.nodup, h.of_mem⟩, fun h => .map h.1 h.2⟩

mutual

/-- Looks for a name that stands twice in one mapping. -/
def namesDiffer : Value → Bool
  | .map entries => decide (names entries).Nodup && entriesDiffer entries
  | _ => true

def entriesDiffer : List (Value × Value) → Bool
  | [] => true
  | (_, v) :: rest => v.namesDiffer && entriesDiffer rest

end

mutual

theorem namesDiffer_iff (v : Value) : v.namesDiffer = true ↔ v.HasDistinctNames := by
  match v with
  | .map entries =>
      rw [namesDiffer, Bool.and_eq_true, decide_eq_true_iff, entriesDiffer_iff entries,
        hasDistinctNames_map_iff]
  | .null | .bool _ | .int _ | .float _ | .text _ | .list _ | .day _ | .moment _ =>
      exact iff_of_true rfl (.other (by simp))

theorem entriesDiffer_iff (entries : List (Value × Value)) :
    entriesDiffer entries = true ↔ ∀ e ∈ entries, e.2.HasDistinctNames := by
  match entries with
  | [] => simp [entriesDiffer]
  | (_, v) :: rest =>
      rw [entriesDiffer, Bool.and_eq_true, namesDiffer_iff v, entriesDiffer_iff rest,
        List.forall_mem_cons]

end

instance (v : Value) : Decidable v.HasDistinctNames := decidable_of_iff _ (namesDiffer_iff v)

end Value

end FolderTag.Document
