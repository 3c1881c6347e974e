import FolderTag.Proofs.Document.Linked
import FolderTag.Proofs.Settings.Layers

/-! # Putting values at the end of paths

What is put under a key is found there, and what stands under a key that parts from it stays as it
is. In linked mappings the first holds wherever the mapping stands that the value is put into, and
the second for a key that parts from every way to the value. -/

namespace FolderTag.Settings

open FolderTag.Document

variable {entries : Entries} {value : Value} {ks parts rest other : List String} {t : Linked}
  {mark : Nat}

/-! ## Putting a value at the end of a path -/

/-- The section that a value is put into says what stood there, if that was a section. -/
theorem valueAt?_sectionOr (k : String) (h : ks ≠ []) (entries : Entries) :
    valueAt? ks (.map (sectionOr k entries)) = (Value.field? k entries).bind (valueAt? ks) := by
  obtain ⟨k', ks, rfl⟩ := List.exists_cons_of_ne_nil h
  rw [sectionOr]
  split
  · rename_i inner hfield
    rw [hfield, Option.bind_some]
  · rename_i hmap
    cases hfield : Value.field? k entries with
    | none => rfl
    | some w =>
        rw [Option.bind_some, valueAt?_cons_of_ne_map k' ks fun inner hw => hmap inner (hw ▸ hfield)]
        rfl

theorem valueAt?_putAt_self (value : Value) (h : parts ≠ []) (entries : Entries) :
    valueAt? parts (.map (putAt value parts entries)) = some value := by
  fun_induction putAt value parts entries with
  | case1 => exact absurd rfl h
  | case2 k entries => rw [valueAt?_cons_map, Value.field?_put_self]; rfl
  | case3 k ks entries hks ih =>
      rw [valueAt?_cons_map, Value.field?_put_self]
      exact ih (by simpa using hks)

theorem exists_cons_of_fork (h : ¬ other <+: parts) : ∃ o os, other = o :: os := by
  refine List.exists_cons_of_ne_nil ?_
  rintro rfl
  exact h List.nil_prefix

/-- Where two paths part, what is put at the end of one is not met on the other. -/
theorem valueAt?_putAt_of_fork (value : Value) (entries : Entries) (h : ¬ parts <+: other)
    (h' : ¬ other <+: parts) :
    valueAt? other (.map (putAt value parts entries)) = valueAt? other (.map entries) := by
  obtain ⟨o, other, rfl⟩ := exists_cons_of_fork h'
  fun_induction putAt value parts entries generalizing o other with
  | case1 => exact absurd List.nil_prefix h
  | case2 k entries =>
      have hne : o ≠ k := by
        rintro rfl
        simp at h
      rw [valueAt?_cons_map, valueAt?_cons_map, Value.field?_put_of_ne _ _ (by simpa using hne.symm)]
  | case3 k ks entries hks ih =>
      rw [valueAt?_cons_map, valueAt?_cons_map]
      -- The paths part at this name, or further on in the section under it.
      by_cases ho : o = k
      · subst ho
        rw [List.cons_prefix_cons, not_and] at h h'
        obtain ⟨o', other, rfl⟩ := exists_cons_of_fork (h' rfl)
        rw [Value.field?_put_self, Option.bind_some, ih _ _ (h rfl) (h' rfl),
          valueAt?_sectionOr o (List.cons_ne_nil o' other)]
      · rw [Value.field?_put_of_ne _ _ (by simpa using Ne.symm ho)]

/-! ## Putting a value in a linked mapping -/

theorem value_linkedSectionOr (k : String) (entries : List (Value × Linked)) :
    (linkedSectionOr k entries).value = .map (sectionOr k (Linked.entryValues entries)) := by
  rw [sectionOr, Linked.field?_entryValues]
  fun_cases linkedSectionOr k entries with
  | case1 mark inner h => rw [h]; rfl
  | case2 inner h => rw [h]; rfl
  | case3 hmap hplain =>
      cases hfield : Value.field? k entries with
      | none => rfl
      | some t =>
          cases t with
          | plain v =>
              cases v with
              | map inner => exact absurd hfield (hplain inner)
              | _ => rfl
          | list items => rfl
          | map mark inner => exact absurd hfield (hmap mark inner)

/-- At one place of a linked mapping a value is put as in a mapping without links. -/
theorem value_putHere (value : Value) (parts : List String) (h : t.value = .map entries) :
    (putHere value parts t).value = .map (putAt value parts entries) := by
  induction parts generalizing t entries with
  | nil =>
      cases t with
      | plain v =>
          cases h
          rfl
      | list items => cases h
      | map mark es => exact h
  | cons k ks ih =>
      cases t with
      | plain v =>
          cases h
          rfl
      | list items => cases h
      | map mark es =>
          cases h
          cases ks with
          | nil => rw [putHere, putAt, Linked.value, Linked.entryValues_put, Linked.value]
          | cons k' ks =>
              have hsection := ih (value_linkedSectionOr k es)
              simp only [putHere, putAt, Linked.value, Linked.entryValues_put, hsection]

/-- A key leads through linked mappings to the last marked one, with a rest of the key from there.
A change at all places of a mapping reaches the first of them on the way: nothing above it may be
the same mapping. -/
inductive LeadsTo (mark : Nat) (rest : List String) : List String → Linked → Prop
  | here (h : rest ≠ []) (entries : List (Value × Linked)) :
      LeadsTo mark rest rest (.map mark entries)
  | further {k : String} {ks : List String} {m : Nat} {entries : List (Value × Linked)} {t : Linked}
      (hne : m ≠ mark) (hfield : Value.field? k entries = some t) (h : LeadsTo mark rest ks t) :
      LeadsTo mark rest (k :: ks) (.map m entries)

theorem leadsTo_of_lastMarked? (h : lastMarked? parts t = some (mark, rest)) :
    LeadsTo mark rest parts t := by
  induction parts generalizing t with
  | nil => cases t <;> cases h
  | cons k ks ih =>
      cases t with
      | plain v => cases h
      | list items => cases h
      | map m entries =>
          rw [lastMarked?, Option.some.injEq] at h
          cases hbelow : ((Value.field? k entries).bind (lastMarked? ks)).filter (·.1 ≠ m) with
          | none =>
              rw [hbelow] at h
              cases h
              exact .here (List.cons_ne_nil k ks) entries
          | some found =>
              rw [hbelow] at h
              cases h
              obtain ⟨hfound, hne⟩ := Option.filter_eq_some_iff.1 hbelow
              obtain ⟨u, hu, hlast⟩ := Option.bind_eq_some_iff.1 hfound
              exact .further (Ne.symm (by simpa using hne)) hu (ih hlast)

namespace LeadsTo

theorem exists_map (h : LeadsTo mark rest parts t) : ∃ m entries, t = .map m entries := by
  cases h <;> exact ⟨_, _, rfl⟩

theorem mem_marks (h : LeadsTo mark rest parts t) : mark ∈ t.marks := by
  induction h with
  | here _ entries => exact List.mem_cons_self
  | further _ hfield _ ih =>
      exact List.mem_cons_of_mem _ ((Linked.marks_sublist_of_field? hfield).subset ih)

/-- Where a mapping is changed wherever it stands, the value that is put into it is found under the
key that led to it. -/
theorem valueAt?_change (h : LeadsTo mark rest parts t) (value : Value) :
    valueAt? parts (t.change mark (putHere value rest)).value = some value := by
  induction h with
  | here h entries =>
      rw [Linked.change, if_pos rfl, value_putHere value rest rfl]
      exact valueAt?_putAt_self value h _
  | further hne hfield _ ih =>
      rw [Linked.change, if_neg hne, Linked.value, valueAt?_cons_map, Linked.field?_entryValues,
        Linked.field?_changeEntries, hfield]
      exact ih

end LeadsTo

/-! ## Keys that are spared -/

/-- A key is spared where something is put into a mapping at the end of a rest: at every place of
the mapping on its way it parts from the rest, and the mapping does not stand below its end. -/
def IsSpared (mark : Nat) (rest : List String) : List String → Linked → Prop
  | [], t => mark ∉ t.marks
  | k :: ks, .map m entries =>
      if m = mark then ¬ rest <+: k :: ks ∧ ¬ k :: ks <+: rest
      else ∀ t, Value.field? k entries = some t → IsSpared mark rest ks t
  | _ :: _, _ => True

theorem valueAt?_change_of_isSpared (value : Value) (h : IsSpared mark rest other t) :
    valueAt? other (t.change mark (putHere value rest)).value = valueAt? other t.value := by
  induction other generalizing t with
  | nil => rw [Linked.change_of_notMem t h]
  | cons k ks ih =>
      cases t with
      | plain v => rfl
      | list items => rfl
      | map m entries =>
          rw [IsSpared] at h
          rw [Linked.change]
          split_ifs at h ⊢ with hm
          · rw [value_putHere value rest rfl, valueAt?_putAt_of_fork _ _ h.1 h.2]
            rfl
          · rw [Linked.value, Linked.value, valueAt?_cons_map, valueAt?_cons_map,
              Linked.field?_entryValues, Linked.field?_entryValues, Linked.field?_changeEntries]
            cases hfield : Value.field? k entries with
            | none => rfl
            | some u => exact ih (h u hfield)

theorem isSpared_of_notMem (h : mark ∉ t.marks) (rest other : List String) :
    IsSpared mark rest other t := by
  induction other generalizing t with
  | nil => exact h
  | cons k ks ih =>
      cases t with
      | plain v => trivial
      | list items => trivial
      | map m entries =>
          rw [Linked.marks, List.mem_cons, not_or] at h
          rw [IsSpared, if_neg (Ne.symm h.1)]
          exact fun u hu => ih fun hmem => h.2 ((Linked.marks_sublist_of_field? hu).subset hmem)

/-- Where the mapping stands at one place only, every key is spared that parts from the one that
leads there. -/
theorem LeadsTo.isSpared (h : LeadsTo mark rest parts t) (hone : t.marks.count mark = 1)
    (hother : ¬ parts <+: other) (hother' : ¬ other <+: parts) : IsSpared mark rest other t := by
  induction h generalizing other with
  | here _ entries =>
      obtain ⟨o, other, rfl⟩ := exists_cons_of_fork hother'
      rw [IsSpared, if_pos rfl]
      exact ⟨hother, hother'⟩
  | @further k ks m entries t hne hfield h ih =>
      obtain ⟨o, other, rfl⟩ := exists_cons_of_fork hother'
      have hpos := List.count_pos_iff.2 h.mem_marks
      rw [Linked.marks, List.count_cons_of_ne hne] at hone
      rw [IsSpared, if_neg hne]
      intro u hu
      by_cases ho : o = k
      · subst ho
        obtain rfl : u = t := Option.some.inj (hu.symm.trans hfield)
        rw [List.cons_prefix_cons, not_and] at hother hother'
        have hle := (Linked.marks_sublist_of_field? hfield).count_le mark
        exact ih (by omega) (hother rfl) (hother' rfl)
      -- The mapping stands under `k`, so nothing under another name holds it.
      · have hle := Linked.count_marks_add_le mark hfield hu ho
        exact isSpared_of_notMem (List.count_eq_zero.1 (by omega)) _ _

/-! ## Putting a value wherever its mapping stands -/

theorem valueAt?_putLinked_self (value : Value) (hparts : parts ≠ []) (ht : t.value = .map entries) :
    valueAt? parts (putLinked value parts t).value = some value := by
  rw [putLinked]
  split
  · rename_i mark rest hlast
    exact (leadsTo_of_lastMarked? hlast).valueAt?_change value
  · rw [value_putHere value parts ht]
    exact valueAt?_putAt_self value hparts entries

/-- A key parts from another one, and from every other way to what the other one leads to. -/
structure PartsFrom (parts other : List String) (t : Linked) : Prop where
  not_above : ¬ parts <+: other
  not_below : ¬ other <+: parts
  isSpared : ∀ mark rest, lastMarked? parts t = some (mark, rest) → IsSpared mark rest other t

/-- The mapping that a value is put into under a key stands at one place only, or it is not marked
at all. -/
def IsUnshared (parts : List String) (t : Linked) : Prop :=
  ∀ mark rest, lastMarked? parts t = some (mark, rest) → t.marks.count mark = 1

theorem valueAt?_putLinked_of_partsFrom (value : Value) (h : PartsFrom parts other t)
    (ht : t.value = .map entries) :
    valueAt? other (putLinked value parts t).value = valueAt? other t.value := by
  rw [putLinked]
  split
  · rename_i mark rest hlast
    exact valueAt?_change_of_isSpared value (h.isSpared mark rest hlast)
  · rw [value_putHere value parts ht, ht]
    exact valueAt?_putAt_of_fork value entries h.not_above h.not_below

theorem IsUnshared.partsFrom (h : IsUnshared parts t) (hother : ¬ parts <+: other)
    (hother' : ¬ other <+: parts) : PartsFrom parts other t where
  not_above := hother
  not_below := hother'
  isSpared mark rest hlast :=
    (leadsTo_of_lastMarked? hlast).isSpared (h mark rest hlast) hother hother'

/-! ## Mappings stay mappings -/

theorem hasDistinctNames_putAt (hvalue : value.HasDistinctNames)
    (h : (Value.map entries).HasDistinctNames) (parts : List String) :
    (Value.map (putAt value parts entries)).HasDistinctNames := by
  fun_induction putAt value parts entries with
  | case1 => exact h
  | case2 k entries => exact h.put _ hvalue
  | case3 k ks entries hks ih =>
      refine h.put _ (ih ?_)
      rw [sectionOr]
      split
      · rename_i inner hfield
        exact h.of_mem _ (Value.mem_of_field? hfield)
      · exact Value.hasDistinctNames_nil

/-- A mapping in which, and below which, no name stands twice. -/
structure IsMapping (v : Value) : Prop where
  exists_entries : ∃ entries, v = .map entries
  distinct : v.HasDistinctNames

theorem isMapping_nil : IsMapping (.map []) := ⟨⟨[], rfl⟩, Value.hasDistinctNames_nil⟩

theorem IsMapping.putHere {t : Linked} (h : IsMapping t.value) (hvalue : value.HasDistinctNames)
    (parts : List String) : IsMapping (putHere value parts t).value := by
  obtain ⟨entries, hentries⟩ := h.exists_entries
  rw [value_putHere value parts hentries]
  exact ⟨⟨_, rfl⟩, hasDistinctNames_putAt hvalue (hentries ▸ h.distinct) parts⟩

theorem IsMapping.putLinked {t : Linked} (h : IsMapping t.value) (hvalue : value.HasDistinctNames)
    (parts : List String) : IsMapping (putLinked value parts t).value := by
  rw [Settings.putLinked]
  split
  · rename_i mark rest hlast
    obtain ⟨m, inner, rfl⟩ := (leadsTo_of_lastMarked? hlast).exists_map
    have hkeep : ∀ es, (Linked.map mark es).value.HasDistinctNames →
        IsMapping (Settings.putHere value rest (.map mark es)).value := fun es hes =>
      IsMapping.putHere ⟨⟨_, rfl⟩, hes⟩ hvalue rest
    refine ⟨?_, Linked.hasDistinctNames_change (fun es hes => (hkeep es hes).distinct) _ h.distinct⟩
    rw [Linked.change]
    split_ifs with hm
    · subst hm
      exact (hkeep inner h.distinct).exists_entries
    · exact ⟨_, rfl⟩
  · exact h.putHere hvalue parts

end FolderTag.Settings
