import FolderTag.Proofs.Document.Names
import FolderTag.Proofs.Outcome
import FolderTag.Settings.Schema

/-! # What a schema promises

Settings that pass a check hold a value of an expected kind wherever the schema expects one and they
hold a value at all. -/

namespace FolderTag.Settings

open FolderTag.Document

variable {schema : Schema} {parts : List (String × Schema)} {entries : Entries} {v w : Value}
  {beginning key k : String} {ks names : List String}

namespace Schema

/-- A schema expects a value of one of some kinds at the end of a path. -/
inductive Expects : Schema → List String → List String → Prop
  | kinds (names : List String) : Expects (.kinds names) [] names
  | field {parts : List (String × Schema)} {k : String} {schema : Schema} {ks names : List String}
      (hpart : (k, schema) ∈ parts) (h : Expects schema ks names) :
      Expects (.fields parts) (k :: ks) names

/-- What a field of a field is expected to be can be looked up. -/
theorem expects_of_lookup {inner : List (String × Schema)} {part name : String}
    (hpart : parts.lookup part = some (.fields inner))
    (hname : inner.lookup name = some (.kinds names)) :
    (Schema.fields parts).Expects [part, name] names := by
  obtain ⟨before, after, rfl, -⟩ := List.lookup_eq_some_iff.1 hpart
  obtain ⟨before', after', rfl, -⟩ := List.lookup_eq_some_iff.1 hname
  exact .field (List.mem_append_right _ (List.mem_cons_self ..))
    (.field (List.mem_append_right _ (List.mem_cons_self ..)) (.kinds names))

theorem check_kinds_eq_ok (h : check key (.kinds names) v = .ok ()) :
    names.any (isOfKind v) = true := by
  rw [check] at h
  split_ifs at h with hany
  exact hany

theorem check_fields_eq_ok (h : check key (.fields parts) v = .ok ()) :
    ∃ entries, v = .map entries ∧ checkFields (key ++ ".") parts entries = .ok () := by
  cases v with
  | map entries => exact ⟨entries, rfl, h⟩
  | _ => cases h

/-- Every field that is there has been checked. -/
theorem check_of_checkFields (h : checkFields beginning parts entries = .ok ())
    (hpart : (k, schema) ∈ parts) (hv : Value.field? k entries = some v) :
    check (beginning ++ k) schema v = .ok () := by
  induction parts with
  | nil => cases hpart
  | cons part parts ih =>
      obtain ⟨name, first⟩ := part
      rw [checkFields] at h
      cases hfield : Value.field? name entries with
      | none =>
          rw [hfield] at h
          rcases List.mem_cons.1 hpart with heq | hmem
          · cases heq
            rw [hfield] at hv
            cases hv
          · exact ih h hmem
      | some x =>
          rw [hfield] at h
          obtain ⟨⟨⟩, hfirst, hrest⟩ := bind_eq_ok_iff.1 h
          rcases List.mem_cons.1 hpart with heq | hmem
          · cases heq
            rw [hfield, Option.some.injEq] at hv
            exact hv ▸ hfirst
          · exact ih hrest hmem

theorem isOfKind_of_check (h : schema.Expects ks names) (hcheck : check key schema v = .ok ())
    (hw : valueAt? ks v = some w) : names.any (isOfKind w) = true := by
  induction h generalizing key v with
  | kinds names =>
      cases hw
      exact check_kinds_eq_ok hcheck
  | field hpart _ ih =>
      obtain ⟨entries, rfl, hfields⟩ := check_fields_eq_ok hcheck
      obtain ⟨x, hx, hw⟩ := Option.bind_eq_some_iff.1 hw
      exact ih (check_of_checkFields hfields hpart hx) hw

/-- What checked entries hold at the end of a path is of an expected kind. -/
theorem isOfKind_of_checkFields (h : (Schema.fields parts).Expects ks names)
    (hcheck : checkFields beginning parts entries = .ok ())
    (hw : valueAt? ks (.map entries) = some w) : names.any (isOfKind w) = true := by
  cases h with
  | field hpart hinner =>
      obtain ⟨x, hx, hw⟩ := Option.bind_eq_some_iff.1 hw
      exact isOfKind_of_check hinner (check_of_checkFields hcheck hpart hx) hw

end Schema

/-- What the merged view of checked settings holds under a key is of an expected kind. -/
theorem Layers.isOfKind_of_validate {l : Layers} (h : l.validate parts = .ok ())
    (hexpects : (Schema.fields parts).Expects ks names) :
    ∃ merged, l.merged = .ok merged ∧
      ∀ v, valueAt? ks (.map merged) = some v → names.any (Schema.isOfKind v) = true := by
  obtain ⟨merged, hmerged, hcheck⟩ := bind_eq_ok_iff.1 h
  rw [mapError_eq_ok_iff] at hmerged hcheck
  exact ⟨merged, hmerged, fun v => Schema.isOfKind_of_checkFields hexpects hcheck⟩

end FolderTag.Settings
