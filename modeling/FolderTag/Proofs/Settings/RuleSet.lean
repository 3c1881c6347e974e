import FolderTag.Proofs.Rule.Stored
import FolderTag.Settings.RuleSet
import Mathlib.Data.List.Nodup

/-! # The stored form of rule sets

A rule set is read back from its document: the rules in their order, and the options of the host,
of which none falls back to its default. -/

namespace FolderTag

open FolderTag.Document FolderTag.Rule FolderTag.Settings

/-! ## Identifiers -/

namespace Settings

/-- The stored form of a rule is a mapping with the id of the rule. -/
theorem exists_entries_of_toValue {r : Rule} {v : Value} (h : r.toValue = .ok v) :
    ∃ entries, v = .map entries ∧ fieldOr entries "id" .null = r.id := by
  cases hd : r.direction with
  | none => simp [Rule.toValue, hd, directionName] at h
  | some d =>
      rw [Rule.toValue_eq hd, Except.ok.injEq] at h
      refine ⟨Value.entriesOf (setFields (r.slots d)), h.symm, ?_⟩
      rw [fieldOr_setFields (r.nodup_slots d)]
      rfl

/-- Rules with different ids pass the check. -/
theorem checkRules_of_nodup {rules : List Rule} {stored : List Value} {ids : List String}
    (seen : List String) (index : Nat) (h : List.Forall₂ (fun r v => r.toValue = .ok v) rules stored)
    (hids : rules.map (·.id) = ids.map .text) (hnodup : (seen ++ ids).Nodup) :
    checkRules index (seen.map .text) stored = .ok () := by
  induction h generalizing ids seen index with
  | nil => rfl
  | @cons r v rules stored hv _ ih =>
      obtain ⟨entries, rfl, hid⟩ := exists_entries_of_toValue hv
      obtain ⟨name, ids, rfl⟩ : ∃ name others, ids = name :: others := by
        cases ids with
        | nil => simp at hids
        | cons name ids => exact ⟨name, ids, rfl⟩
      rw [List.map_cons, List.map_cons, List.cons.injEq] at hids
      rw [List.nodup_middle] at hnodup
      have hnew : name ∉ seen := fun hmem =>
        (List.nodup_cons.1 hnodup).1 (List.mem_append_left _ hmem)
      have hcheck : checkRule index (seen.map .text) (.map entries) = .ok (.text name) := by
        rw [checkRule, hid, hids.1]
        simp [Value.asKey, Value.isKey, hnew]
      rw [checkRules, hcheck, ok_bind]
      exact ih (name :: seen) (index + 1) hids.2 hnodup

end Settings

namespace RuleSet

variable {s : RuleSet} {v document : Value}

/-! ## Options -/

/-- Options begin with those that have a default. -/
theorem keys_prefix_optionsOf (given : Entries) :
    (Value.entriesOf defaultOptions).map Prod.fst <+: (optionsOf given).map Prod.fst :=
  Value.keys_prefix_foldl_put given _

/-- Options that were read once are read again as they are. -/
theorem optionsOf_eq_self {fields : List (String × Value)}
    (hdefaults : defaultOptions.map Prod.fst <+: fields.map Prod.fst)
    (hnames : (fields.map Prod.fst).Nodup) :
    optionsOf (Value.entriesOf fields) = Value.entriesOf fields :=
  Value.foldl_put [] hdefaults hnames

/-! ## Documents -/

theorem exists_optionsOf_of_ofEntries {entries : Entries} (h : ofEntries entries = .ok s) :
    ∃ given, s.options = optionsOf given := by
  rw [ofEntries, bind_eq_ok_iff] at h
  obtain ⟨strange, -, h⟩ := h
  cases strange with
  | cons name names => simp [Settings.refuse] at h
  | nil =>
      dsimp only at h
      generalize hrules : fieldOr entries "rules" (.list []) = rules at h
      split at h
      all_goals
        split at h
        all_goals
          obtain ⟨rules, -, h⟩ := bind_eq_ok_iff.1 h
          rw [pure_eq_ok, Except.ok.injEq] at h
          exact ⟨_, by rw [← h]⟩

theorem exists_optionsOf (h : ofValue v = .ok s) : ∃ given, s.options = optionsOf given := by
  unfold ofValue at h
  obtain ⟨-, -, h⟩ := bind_eq_ok_iff.1 h
  split at h
  · exact exists_optionsOf_of_ofEntries h
  · exact exists_optionsOf_of_ofEntries h

/-- Rules are read back one after the other. -/
theorem readRules_of_forall₂ {rules : List Rule} {stored : List Value}
    (h : List.Forall₂ (fun r v => Rule.ofValue v = .ok r) rules stored) (index : Nat) :
    readRules index stored = .ok rules := by
  induction h generalizing index with
  | nil => rfl
  | cons hv _ ih =>
      rw [readRules, hv, mapError_ok, ok_bind, ih]
      rfl

/-- How a document is read that has the fields of a stored rule set. -/
theorem ofValue_ofFields {version : Value} {stored : List Value} {options : Entries}
    {rules : List Rule} (hcheck : checkRules 0 [] stored = .ok ())
    (hread : readRules 0 stored = .ok rules) :
    ofValue (Value.ofFields [
      ("version", version), ("rules", .list stored), ("options", .map options)]) =
      .ok { rules, options := optionsOf options } := by
  have hknown : strangeKeys knownKeys (Value.entriesOf [
      ("version", version), ("rules", .list stored), ("options", .map options)]) = .ok [] :=
    strangeKeys_entriesOf (by simp [knownKeys, defaultSettings])
  rw [Value.ofFields_eq, ofValue]
  simp only [checkLayout, ofEntries, hknown, fieldOr, Value.field?_entriesOf, List.lookup_cons,
    String.reduceBEq, beq_self_eq_true, Option.getD_some, hcheck, hread, mapError_ok, ok_bind,
    pure_eq_ok]

/-- The stored form of a rule set with different ids is read back as the rule set. -/
theorem ofValue_toValue {ids : List String} (h : ofValue v = .ok s)
    (hids : s.rules.map (·.id) = ids.map .text) (hnodup : ids.Nodup)
    (hrules : ∀ r ∈ s.rules, ∀ stored, r.toValue = .ok stored → Rule.ofValue stored = .ok r)
    {fields : List (String × Value)} (hoptions : s.options = Value.entriesOf fields)
    (hnames : (fields.map Prod.fst).Nodup) (hdocument : s.toValue = .ok document) :
    ofValue document = .ok s := by
  obtain ⟨given, hgiven⟩ := exists_optionsOf h
  obtain ⟨stored, hstored, hdocument⟩ := bind_eq_ok_iff.1 hdocument
  rw [pure_eq_ok, Except.ok.injEq] at hdocument
  subst hdocument
  rw [mapM_eq_ok_iff] at hstored
  have hread : readRules 0 stored = .ok s.rules := by
    have hboth := (List.forall₂_and_left _ _).2 ⟨hrules, hstored⟩
    exact readRules_of_forall₂ (hboth.imp fun r stored hr => hr.1 stored hr.2) 0
  have hsame : optionsOf s.options = s.options := by
    have hdefaults := hgiven ▸ keys_prefix_optionsOf given
    rw [hoptions, Value.keys_entriesOf, Value.keys_entriesOf,
      List.prefix_map_iff_of_injective fun _ _ => Value.text.inj] at hdefaults
    rw [hoptions]
    exact optionsOf_eq_self hdefaults hnames
  rw [ofValue_ofFields (checkRules_of_nodup [] 0 hstored hids hnodup) hread, hsame]

end RuleSet

end FolderTag
