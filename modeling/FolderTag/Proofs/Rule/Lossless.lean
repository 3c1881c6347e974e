import FolderTag.Proofs.Rule.Completion
import FolderTag.Proofs.Rule.Stored

/-! # Which stored rules are kept

A stored rule may leave out what has a default, and it may hold nothing where something is needed:
a direction, or a switch with a default. Then it is read, but its own stored form is missing or is
read as another rule. -/

namespace FolderTag.Rule

open FolderTag.Document

variable {entries : Entries} {r : Rule} {o : Options} {name : String} {v d : Value}

/-! ## Fields that hold nothing -/

theorem fieldOr_eq_null_iff (hd : d ≠ .null) :
    fieldOr entries name d = .null ↔ Value.field? name entries = some .null := by
  rw [fieldOr]
  cases Value.field? name entries with
  | none => simpa using hd
  | some v => simp

theorem readChoice_eq_none_iff (α : Type) [Choice α] :
    readChoice α v = .ok none ↔ v = .null := by
  cases v with
  | null => exact iff_of_true rfl rfl
  | _ =>
      refine iff_of_false (fun h => ?_) (by simp)
      rw [readChoice.eq_def] at h
      dsimp only at h
      split at h
      · cases h
      · rw [refuseShown] at h
        split at h <;> cases h

/-- The switches that have a default. -/
def Options.switchNames : List String := [
  "createFolders", "addTags", "removeOrphanedTags", "syncOnFileCreate", "syncOnFileMove",
  "syncOnFileRename"]

theorem Options.hasSwitches_iff (h : Options.ofEntries entries = .ok o) :
    o.HasSwitches ↔ ∀ name ∈ switchNames, Value.field? name entries ≠ some .null := by
  obtain ⟨onConflict, -, h⟩ := bind_eq_ok_iff.1 h
  obtain ⟨tagSpecificity, -, h⟩ := bind_eq_ok_iff.1 h
  cases h
  simp only [switchNames, List.forall_mem_cons, List.not_mem_nil, false_implies, implies_true,
    and_true]
  have hnull {name : String} {b : Bool} : fieldOr entries name (.bool b) ≠ .null ↔
      Value.field? name entries ≠ some .null := not_congr (fieldOr_eq_null_iff nofun)
  constructor
  · rintro ⟨h₁, h₂, h₃, h₄, h₅, h₆⟩
    exact ⟨hnull.1 h₁, hnull.1 h₂, hnull.1 h₃, hnull.1 h₄, hnull.1 h₅, hnull.1 h₆⟩
  · rintro ⟨h₁, h₂, h₃, h₄, h₅, h₆⟩
    exact ⟨hnull.2 h₁, hnull.2 h₂, hnull.2 h₃, hnull.2 h₄, hnull.2 h₅, hnull.2 h₆⟩

/-! ## Rules -/

/-- The entries of the options of a stored rule; there are none if they are no mapping. -/
def optionEntries (entries : Entries) : Entries :=
  match Value.field? "options" entries with
  | some (.map options) => options
  | _ => []

theorem Options.ofEntries_of_ofValue
    (h : Options.ofValue (fieldOr entries "options" .null) = .ok o) :
    Options.ofEntries (optionEntries entries) = .ok o := by
  obtain ⟨known, hknown, h⟩ := bind_eq_ok_iff.1 h
  have hmap := eq_map_of_knownFields hknown
  rw [fieldOr] at hmap
  rw [optionEntries]
  split at hmap
  · cases hfield : Value.field? "options" entries with
    | none => simp [hfield] at hmap
    | some v =>
        rw [hfield, Option.getD_some] at hmap
        rw [hmap]
        exact h
  · rename_i hunset
    cases hmap
    split
    · rename_i options hfield
      rw [hfield, Option.getD_some, Bool.not_eq_true, Value.isSet, Bool.not_eq_false',
        List.isEmpty_iff] at hunset
      rw [hunset]
      exact h
    · exact h

theorem fields_of_ofEntries {folder tag : Option Transform.Recipe} {options : Options}
    (h : ofEntries entries folder tag options = .ok r) :
    readChoice Direction (fieldOr entries "direction" (Choice.value Direction.both)) =
      .ok r.direction ∧ r.options = options := by
  obtain ⟨direction, hdirection, h⟩ := bind_eq_ok_iff.1 h
  obtain ⟨folderPattern, -, h⟩ := bind_eq_ok_iff.1 h
  obtain ⟨folderEntry, -, h⟩ := bind_eq_ok_iff.1 h
  obtain ⟨tagPattern, -, h⟩ := bind_eq_ok_iff.1 h
  obtain ⟨tagEntry, -, h⟩ := bind_eq_ok_iff.1 h
  cases h
  exact ⟨hdirection, rfl⟩

/-- What a rule that has been read says of its stored form. -/
theorem exists_ofEntries_of_ofValue (h : Rule.ofValue (.map entries) = .ok r) :
    ∃ folder tag, Options.ofEntries (optionEntries entries) = .ok r.options ∧
      ofEntries entries folder tag r.options = .ok r := by
  obtain ⟨known, hknown, h⟩ := bind_eq_ok_iff.1 h
  cases eq_map_of_knownFields hknown
  dsimp only at h
  split_ifs at h
  · cases h
  · obtain ⟨folder, -, h⟩ := bind_eq_ok_iff.1 h
    obtain ⟨tag, -, h⟩ := bind_eq_ok_iff.1 h
    obtain ⟨options, hoptions, h⟩ := bind_eq_ok_iff.1 h
    obtain rfl := (fields_of_ofEntries h).2
    exact ⟨folder, tag, Options.ofEntries_of_ofValue hoptions, h⟩

theorem direction_eq_none_iff (h : Rule.ofValue (.map entries) = .ok r) :
    r.direction = none ↔ Value.field? "direction" entries = some .null := by
  obtain ⟨folder, tag, -, h⟩ := exists_ofEntries_of_ofValue h
  have hdirection := (fields_of_ofEntries h).1
  rw [← fieldOr_eq_null_iff (d := Choice.value Direction.both) nofun,
    ← readChoice_eq_none_iff Direction, hdirection, Except.ok.injEq]

theorem exists_toValue_iff : (∃ v, r.toValue = .ok v) ↔ r.direction ≠ none := by
  cases hd : r.direction with
  | none => simp [toValue, hd, directionName]
  | some d => exact iff_of_true ⟨_, toValue_eq hd⟩ (Option.some_ne_none d)

/-- Nothing is stored where a rule needs something: a direction, or a switch that has a default. -/
def LacksNeeded (entries : Entries) : Prop :=
  Value.field? "direction" entries = some .null ∨
    ∃ name ∈ Options.switchNames, Value.field? name (optionEntries entries) = some .null

/-- A rule that has been read is kept by its own stored form exactly where nothing that it needs was
stored as nothing. It has no stored form exactly if that was its direction, and otherwise it is read
again with the defaults of its switches. -/
theorem kept_by_stored_form_iff (h : Rule.ofValue (.map entries) = .ok r) :
    ((∃ v, r.toValue = .ok v ∧ Rule.ofValue v = .ok r) ↔ ¬ LacksNeeded entries) ∧
    ((∃ v, r.toValue = .ok v) ↔ Value.field? "direction" entries ≠ some .null) ∧
    ∀ v, r.toValue = .ok v → Rule.ofValue v = .ok r.settled := by
  have hdirection := direction_eq_none_iff h
  obtain ⟨folder, tag, hoptions, -⟩ := exists_ofEntries_of_ofValue h
  have hswitches := Options.hasSwitches_iff hoptions
  have hform := exists_toValue_iff (r := r)
  rw [ne_eq, hdirection] at hform
  refine ⟨?_, hform, fun v hv => ofValue_toValue_settled hv⟩
  rw [LacksNeeded, not_or, ← hform]
  constructor
  · rintro ⟨v, hv, hread⟩
    rw [ofValue_toValue_settled hv, Except.ok.injEq] at hread
    have hsettled := Options.settled_eq_self_iff.1 (congrArg Rule.options hread)
    exact ⟨⟨v, hv⟩, fun ⟨name, hname, hnull⟩ => hswitches.1 hsettled name hname hnull⟩
  · rintro ⟨⟨v, hv⟩, hset⟩
    have hneeded := hswitches.2 fun name hname hnull => hset ⟨name, hname, hnull⟩
    exact ⟨v, hv, ofValue_toValue hneeded hv⟩

/-- A rule with an option that is stored as nothing, where nothing is needed, is kept. -/
theorem kept_by_stored_form_projects :
    let options := Value.ofFields [("addTags", .bool false), ("onConflict", .null)]
    let entries := Value.entriesOf [
      ("id", .text "a"), ("name", .text "A"), ("enabled", .bool true), ("priority", .null),
      ("direction", .text "bidirectional"), ("folderPattern", .text "Projects/*"),
      ("tagTransforms", Value.ofFields [("caseTransform", .text "kebab-case")]),
      ("options", options)]
    ∃ r v, Rule.ofValue (.map entries) = .ok r ∧ r.toValue = .ok v ∧ Rule.ofValue v = .ok r := by
  intro options entries
  obtain ⟨r, hr⟩ : ∃ r, Rule.ofValue (.map entries) = .ok r :=
    exists_ok_of_isOk (by decide +kernel)
  have hswitches : ∀ name ∈ Options.switchNames,
      Value.field? name (optionEntries entries) ≠ some .null := by
    simp only [Options.switchNames, List.forall_mem_cons]
    exact ⟨nofun, nofun, nofun, nofun, nofun, nofun, nofun⟩
  have hstored : ¬ LacksNeeded entries := by
    rintro (hdirection | ⟨name, hname, hnull⟩)
    · cases hdirection
    · exact hswitches name hname hnull
  obtain ⟨v, hv, hread⟩ := (kept_by_stored_form_iff hr).1.2 hstored
  exact ⟨r, v, hr, hv, hread⟩

/-- A rule whose direction is stored as nothing has no stored form, and one with a switch that is
stored as nothing is read again with the default of that switch. -/
theorem stored_form_loses_nulls :
    let entries := fun direction options => Value.entriesOf [
      ("id", .text "a"), ("name", .text "A"), ("enabled", .bool true), ("priority", .int 0),
      ("direction", direction), ("options", Value.ofFields options)]
    let undirected := entries .null []
    let unset := entries (.text "bidirectional") [("createFolders", .null)]
    (∃ r cause, Rule.ofValue (.map undirected) = .ok r ∧ r.toValue = .error cause) ∧
    ∃ r v, Rule.ofValue (.map unset) = .ok r ∧ r.toValue = .ok v ∧ Rule.ofValue v ≠ .ok r := by
  intro entries undirected unset
  constructor
  · obtain ⟨r, hr⟩ : ∃ r, Rule.ofValue (.map undirected) = .ok r :=
      exists_ok_of_isOk (by decide +kernel)
    have hnone := (direction_eq_none_iff hr).2 rfl
    exact ⟨r, _, hr, by rw [toValue, hnone]; rfl⟩
  · obtain ⟨r, hr⟩ : ∃ r, Rule.ofValue (.map unset) = .ok r :=
      exists_ok_of_isOk (by decide +kernel)
    have hdirection : r.direction ≠ none := mt (direction_eq_none_iff hr).1 nofun
    obtain ⟨v, hv⟩ := exists_toValue_iff.2 hdirection
    refine ⟨r, v, hr, hv, ?_⟩
    rw [ofValue_toValue_settled hv, ne_eq, Except.ok.injEq]
    intro heq
    obtain ⟨folder, tag, hoptions, -⟩ := exists_ofEntries_of_ofValue hr
    have hswitches := Options.settled_eq_self_iff.1 (congrArg Rule.options heq)
    exact (Options.hasSwitches_iff hoptions).1 hswitches "createFolders" (by decide) rfl

end FolderTag.Rule
