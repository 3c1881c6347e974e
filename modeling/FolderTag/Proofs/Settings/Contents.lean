import FolderTag.Proofs.Document.Override
import FolderTag.Proofs.Rule.Lossless
import FolderTag.Proofs.Settings.Completion
import Mathlib.Data.List.Nodup

/-! # What a rule set holds

A rule set holds the rules of its document in their order, and its options. No two rules have the
same id, so each rule is found under its own. -/

namespace FolderTag

open FolderTag.Document FolderTag.Rule FolderTag.Settings

variable {document v : Value} {entries : Entries} {rules : List Rule} {vs seen : List Value}
  {s : RuleSet} {r : Rule} {name : String} {index : Nat}

/-! ## Ids -/

namespace Settings

/-- The id that a stored rule names. -/
def storedId : Value → Value
  | .map entries => fieldOr entries "id" .null
  | _ => .null

theorem refuseShown_ne_ok {α : Type} (shown : Value) (violation : Violation) (a : α) :
    refuseShown shown violation ≠ .ok a := by
  rw [refuseShown]
  split_ifs <;> simp [Rule.refuse, reject]

theorem checkRule_eq_ok_iff {id : Value} :
    checkRule index seen v = .ok id ↔
      (∃ entries, v = .map entries) ∧ storedId v = id ∧ id.isKey = true ∧
        ∀ other ∈ seen, other.equal id = false := by
  cases v with
  | map entries =>
      rw [checkRule, storedId, bind_eq_ok_iff]
      constructor
      · rintro ⟨id', hid, h⟩
        obtain ⟨rfl, hkey⟩ := asKey_eq_ok_iff.1 (mapError_eq_ok_iff.1 hid)
        split_ifs at h with hseen
        · obtain ⟨refused, hrefused, _⟩ := bind_eq_ok_iff.1 h
          exact absurd hrefused (refuseShown_ne_ok _ _ refused)
        · cases h
          exact ⟨⟨entries, rfl⟩, rfl, hkey, by simpa using hseen⟩
      · rintro ⟨-, rfl, hkey, hseen⟩
        refine ⟨_, mapError_eq_ok_iff.2 (asKey_eq_ok_iff.2 ⟨rfl, hkey⟩), ?_⟩
        rw [if_neg (by simpa using hseen)]
        rfl
  | _ => simp [checkRule, Rule.refuse]

/-- The check goes through exactly for lists of mappings with different ids. -/
theorem checkRules_eq_ok_iff :
    checkRules index seen vs = .ok () ↔
      (∀ v ∈ vs, (∃ entries, v = .map entries) ∧ (storedId v).isKey = true) ∧
      (vs.map storedId).Pairwise (fun a b => a.equal b = false) ∧
      ∀ a ∈ seen, ∀ b ∈ vs.map storedId, a.equal b = false := by
  induction vs generalizing index seen with
  | nil => simp [checkRules]
  | cons v vs ih =>
      rw [checkRules, bind_eq_ok_iff]
      constructor
      · rintro ⟨id, hfirst, hrest⟩
        obtain ⟨hmap, rfl, hkey, hseen⟩ := checkRule_eq_ok_iff.1 hfirst
        obtain ⟨hmaps, hpairs, hothers⟩ := ih.1 hrest
        rw [List.forall_mem_cons] at hothers
        refine ⟨List.forall_mem_cons.2 ⟨⟨hmap, hkey⟩, hmaps⟩,
          List.pairwise_cons.2 ⟨hothers.1, hpairs⟩, fun a ha => ?_⟩
        exact List.forall_mem_cons.2 ⟨hseen a ha, hothers.2 a ha⟩
      · rintro ⟨hmaps, hpairs, hothers⟩
        obtain ⟨⟨hmap, hkey⟩, hmaps⟩ := List.forall_mem_cons.1 hmaps
        obtain ⟨hfirst, hpairs⟩ := List.pairwise_cons.1 hpairs
        have hseen (a : Value) (ha : a ∈ seen) := List.forall_mem_cons.1 (hothers a ha)
        refine ⟨storedId v, checkRule_eq_ok_iff.2 ⟨hmap, rfl, hkey, fun a ha => (hseen a ha).1⟩,
          ih.2 ⟨hmaps, hpairs, ?_⟩⟩
        exact List.forall_mem_cons.2 ⟨hfirst, fun a ha => (hseen a ha).2⟩

/-- The options of a document, as they are stored. -/
def storedOptions : Value → Entries
  | .map entries =>
      match fieldOr entries "options" (.map []) with
      | .map given => given
      | _ => []
  | _ => []

end Settings

/-- A rule has the id that its stored form names. -/
theorem Rule.id_eq_storedId (h : Rule.ofValue v = .ok r) : r.id = storedId v := by
  cases v with
  | map entries =>
      obtain ⟨folder, tag, -, h⟩ := exists_ofEntries_of_ofValue h
      obtain ⟨direction, -, h⟩ := bind_eq_ok_iff.1 h
      obtain ⟨folderPattern, -, h⟩ := bind_eq_ok_iff.1 h
      obtain ⟨folderEntry, -, h⟩ := bind_eq_ok_iff.1 h
      obtain ⟨tagPattern, -, h⟩ := bind_eq_ok_iff.1 h
      obtain ⟨tagEntry, -, h⟩ := bind_eq_ok_iff.1 h
      rw [pure_eq_ok, Except.ok.injEq] at h
      rw [← h]
      rfl
  | _ => simp [Rule.ofValue, knownFields, Rule.refuse] at h

namespace RuleSet

/-! ## Documents -/

theorem forall₂_of_readRules (h : readRules index vs = .ok rules) :
    List.Forall₂ (fun v r => Rule.ofValue v = .ok r) vs rules := by
  induction vs generalizing index rules with
  | nil =>
      cases h
      exact .nil
  | cons v vs ih =>
      obtain ⟨r, hr, h⟩ := bind_eq_ok_iff.1 h
      obtain ⟨others, hothers, h⟩ := bind_eq_ok_iff.1 h
      cases h
      exact .cons (mapError_eq_ok_iff.1 hr) (ih hothers)

theorem parts_of_ofEntries {given : Entries}
    (hrules : fieldOr entries "rules" (.list []) = .list vs)
    (hoptions : fieldOr entries "options" (.map []) = .map given) (h : ofEntries entries = .ok s) :
    readRules 0 vs = .ok s.rules ∧ s.options = optionsOf given := by
  rw [ofEntries, bind_eq_ok_iff] at h
  obtain ⟨strange, -, h⟩ := h
  cases strange with
  | cons name names => simp [Settings.refuse] at h
  | nil =>
      simp only [hrules, hoptions] at h
      obtain ⟨rules, hread, h⟩ := bind_eq_ok_iff.1 h
      cases h
      exact ⟨hread, rfl⟩

/-- What the rules and options of a rule set come from. -/
theorem parts_of_ofValue (h : ofValue document = .ok s) :
    checkRules 0 [] (storedRules document) = .ok () ∧
      readRules 0 (storedRules document) = .ok s.rules ∧
      s.options = optionsOf (storedOptions document) := by
  obtain ⟨checked, hlayout, h⟩ := bind_eq_ok_iff.1 h
  cases document with
  | null => exact ⟨rfl, parts_of_ofEntries rfl rfl h⟩
  | map entries =>
      rw [mapError_eq_ok_iff, checkLayout] at hlayout
      cases hrules : fieldOr entries "rules" (.list []) with
      | list vs =>
          rw [hrules] at hlayout
          obtain ⟨passed, hcheck, hlayout⟩ := bind_eq_ok_iff.1 hlayout
          cases hoptions : fieldOr entries "options" (.map []) with
          | map given =>
              rw [storedRules, storedOptions, hrules, hoptions]
              exact ⟨hcheck, parts_of_ofEntries hrules hoptions h⟩
          | _ => simp [hoptions, Rule.refuse] at hlayout
      | _ => simp [hrules, Rule.refuse] at hlayout
  | _ => simp [checkLayout, Rule.refuse] at hlayout

/-! ## Rules and their ids -/

theorem ids_of_readRules (h : List.Forall₂ (fun v r => Rule.ofValue v = .ok r) vs rules) :
    rules.map (·.id) = vs.map storedId := by
  induction h with
  | nil => rfl
  | cons hr _ ih => rw [List.map_cons, List.map_cons, ih, Rule.id_eq_storedId hr]

/-- Texts that do not count as equal are different. -/
theorem nodup_of_pairwise_not_equal {ids : List Value} (htext : ∀ id ∈ ids, ∃ name, id = .text name)
    (h : ids.Pairwise fun a b => a.equal b = false) : ids.Nodup := by
  refine h.imp_of_mem fun {a b} ha _ hne heq => ?_
  obtain ⟨name, rfl⟩ := htext a ha
  simp [← heq] at hne

theorem get?_of_mem (hnodup : (s.rules.map (·.id)).Nodup) (hr : r ∈ s.rules)
    (hid : r.id = .text name) : s.get? (.text name) = some r := by
  cases hfound : s.get? (.text name) with
  | none =>
      have hnone := List.find?_eq_none.1 hfound r hr
      exact absurd (Value.equal_text_iff.2 hid) hnone
  | some found =>
      have hmem : found ∈ s.rules := List.mem_of_find?_eq_some hfound
      have hequal : found.id.equal (.text name) = true :=
        List.find?_some (p := fun r : Rule => r.id.equal (.text name)) hfound
      have hsame : found.id = .text name := Value.equal_text_iff.1 hequal
      rw [List.inj_on_of_nodup_map hnodup hmem hr (hsame.trans hid.symm)]

theorem get?_of_notMem (h : .text name ∉ s.rules.map (·.id)) : s.get? (.text name) = none := by
  refine List.find?_eq_none.2 fun r hr hequal => h ?_
  rw [← Value.equal_text_iff.1 hequal]
  exact List.mem_map_of_mem hr

/-- What a rule set has of its document. -/
structure Holds (s : RuleSet) (document : Value) : Prop where
  /-- There is a rule for each stored one, in the order of the document. -/
  rules : List.Forall₂ (fun v r => Rule.ofValue v = .ok r) (storedRules document) s.rules
  nodup_ids : (s.rules.map (·.id)).Nodup
  get?_id : ∀ r ∈ s.rules, s.get? r.id = some r
  get?_other : ∀ name, .text name ∉ s.rules.map (·.id) → s.get? (.text name) = none
  /-- Options have their default values, but for those that the document gives. -/
  options : Value.HasDistinctKeys (storedOptions document) →
    s.options = Value.overridden defaultOptions (storedOptions document)

/-- A rule set that is read from a document with texts as ids holds what the document says. No
document is read in which two rules name the same text, wherever they stand. -/
theorem ofValue_holds (document : Value) :
    (∀ s, ofValue document = .ok s →
      (∀ v ∈ storedRules document, ∃ name, storedId v = .text name) → s.Holds document) ∧
    ∀ (i j : Nat) (name : String), i < j → (storedRules document)[i]?.map storedId = some (.text name) →
      (storedRules document)[j]?.map storedId = some (.text name) →
      ∀ s, ofValue document ≠ .ok s := by
  constructor
  · intro s h htext
    obtain ⟨hcheck, hread, hgiven⟩ := parts_of_ofValue h
    have hrules := forall₂_of_readRules hread
    have hids := ids_of_readRules hrules
    have htexts : ∀ id ∈ (storedRules document).map storedId, ∃ name, id = .text name :=
      List.forall_mem_map.2 htext
    have hnodup := nodup_of_pairwise_not_equal htexts (checkRules_eq_ok_iff.1 hcheck).2.1
    rw [← hids] at htexts hnodup
    constructor
    case rules => exact hrules
    case nodup_ids => exact hnodup
    case get?_id =>
      intro r hr
      obtain ⟨name, hid⟩ := htexts r.id (List.mem_map_of_mem hr)
      rw [hid]
      exact get?_of_mem hnodup hr hid
    case get?_other => exact fun name => get?_of_notMem
    case options =>
      intro hkeys
      rw [hgiven]
      exact Value.foldl_put_eq_overridden (by decide) hkeys
  · intro i j name hij hi hj s h
    have hpairs := (checkRules_eq_ok_iff.1 (parts_of_ofValue h).1).2.1
    rw [← List.getElem?_map] at hi hj
    obtain ⟨hilt, hi⟩ := List.getElem?_eq_some_iff.1 hi
    obtain ⟨hjlt, hj⟩ := List.getElem?_eq_some_iff.1 hj
    have hne := List.pairwise_iff_getElem.1 hpairs i j hilt hjlt hij
    simp [hi, hj] at hne

/-- Two rules and two options, one of which has no default. -/
theorem ofValue_holds_archive :
    let rule := fun id => Value.ofFields [
      ("id", .text id), ("name", .text "A"), ("enabled", .bool true), ("priority", .int 0),
      ("direction", .text "bidirectional"), ("options", .map [])]
    let document := Value.ofFields [
      ("options", Value.ofFields [("colour", .int 3), ("debugMode", .bool true)]),
      ("rules", .list [rule "inbox", rule "archive"])]
    let doubled := Value.ofFields [("rules", .list [rule "a", rule "b", rule "a"])]
    (∃ s, ofValue document = .ok s ∧ s.Holds document ∧ s.isSet "debugMode" = true) ∧
    ∀ s, ofValue doubled ≠ .ok s := by
  intro rule document doubled
  constructor
  · obtain ⟨s, hs⟩ : ∃ s, ofValue document = .ok s := exists_ok_of_isOk (by decide +kernel)
    have htext : ∀ v ∈ storedRules document, ∃ name, storedId v = .text name :=
      List.forall_mem_cons.2 ⟨⟨"inbox", rfl⟩, List.forall_mem_singleton.2 ⟨"archive", rfl⟩⟩
    have hholds := (ofValue_holds document).1 s hs htext
    refine ⟨s, hs, hholds, ?_⟩
    rw [isSet, hholds.options (by decide +kernel)]
    decide +kernel
  · exact (ofValue_holds doubled).2 0 2 "a" (by decide) rfl rfl

end RuleSet

end FolderTag
