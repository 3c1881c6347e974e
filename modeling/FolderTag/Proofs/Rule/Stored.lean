import FolderTag.Proofs.Rule.Fields
import FolderTag.Rule.Basic

/-! # The stored form of rules

A rule is read back from its stored form as it was, as long as the switches that have a default are
set and the rule has a direction. -/

namespace FolderTag

open FolderTag.Document FolderTag.Rule FolderTag.Transform

/-! ## Recipes -/

namespace Transform

/-- The fields of a stored rewrite. -/
def Rewrite.slots (r : Rewrite) : List (String × Option Value) := [
  ("pattern", some r.pattern), ("replacement", some r.replacement), ("flags", present? r.flags)]

theorem Rewrite.toValue_eq (r : Rewrite) : r.toValue = Value.ofFields (setFields r.slots) := rfl

theorem Rewrite.names_slots_subset (r : Rewrite) :
    r.slots.map Prod.fst ⊆ ["pattern", "replacement", "flags"] := List.Subset.refl _

theorem Rewrite.nodup_slots (r : Rewrite) : (r.slots.map Prod.fst).Nodup := by
  simp [slots]

theorem Rewrite.ofValue_toValue (r : Rewrite) : Rewrite.ofValue r.toValue = .ok r := by
  have hpattern :
      Value.field? "pattern" (Value.entriesOf (setFields r.slots)) = some r.pattern := by
    rw [Value.field?_entriesOf]
    rfl
  rw [Rewrite.ofValue, toValue_eq, knownFields_ofFields (mem_of_mem_setFields r.names_slots_subset),
    ok_bind, hpattern]
  simp only [fieldOr_setFields r.nodup_slots]
  simp [slots, List.lookup_cons]

theorem Rewrite.listOfValue_toValue (rewrites : List Rewrite) :
    Rewrite.listOfValue (((if rewrites.isEmpty then none
      else some (.list (rewrites.map Rewrite.toValue))) : Option Value).getD .null) =
      .ok rewrites := by
  cases rewrites with
  | nil => rfl
  | cons r rewrites =>
      have hread := mapM_map_eq_ok (l := r :: rewrites) fun r _ => Rewrite.ofValue_toValue r
      simpa [Rewrite.listOfValue, Value.isSet, Rewrite.itemsOf] using hread

/-- The fields of a stored recipe. -/
def Recipe.slots (r : Recipe) : List (String × Option Value) := [
  ("caseTransform", r.convention.map Choice.value),
  ("emojiHandling", r.emoji.map Choice.value),
  ("numberPrefixHandling", r.number.map Choice.value),
  ("customTransforms",
    if r.rewrites.isEmpty then none else some (.list (r.rewrites.map Rewrite.toValue)))]

theorem Recipe.toValue_eq (r : Recipe) : r.toValue = Value.ofFields (setFields r.slots) := rfl

theorem Recipe.names_slots_subset (r : Recipe) : r.slots.map Prod.fst ⊆ fieldNames :=
  List.Subset.refl fieldNames

theorem Recipe.nodup_slots (r : Recipe) : (r.slots.map Prod.fst).Nodup := by
  simp [slots]

theorem Recipe.ofValues_of_choices (r : Recipe) :
    ofValues ((r.convention.map Choice.value).getD .null) ((r.emoji.map Choice.value).getD .null)
      ((r.number.map Choice.value).getD .null) r.rewrites = .ok r := by
  rw [ofValues, readChoice_getD (by rintro (_ | _) <;> rfl), ok_bind,
    readChoice_getD (by rintro (_ | _) <;> rfl), ok_bind,
    readChoice_getD (by rintro (_ | _) <;> rfl), ok_bind, pure_eq_ok]

theorem Recipe.ofValue_toValue (r : Recipe) : Recipe.ofValue r.toValue = .ok r := by
  rw [Recipe.ofValue, toValue_eq, knownFields_ofFields (mem_of_mem_setFields r.names_slots_subset),
    ok_bind]
  simp only [fieldOr_setFields r.nodup_slots]
  simp only [slots, List.lookup_cons, String.reduceBEq, beq_self_eq_true, Option.join_some,
    Rewrite.listOfValue_toValue, ok_bind, ofValues_of_choices]

end Transform

/-! ## Options -/

namespace Rule

/-- The switches that have a default other than nothing are set. -/
structure Options.HasSwitches (o : Options) : Prop where
  createFolders : o.createFolders ≠ .null
  addTags : o.addTags ≠ .null
  removeOrphanedTags : o.removeOrphanedTags ≠ .null
  syncOnFileCreate : o.syncOnFileCreate ≠ .null
  syncOnFileMove : o.syncOnFileMove ≠ .null
  syncOnFileRename : o.syncOnFileRename ≠ .null

/-- The fields of stored options. -/
def Options.slots (o : Options) : List (String × Option Value) := [
  ("createFolders", present? o.createFolders),
  ("addTags", present? o.addTags),
  ("removeOrphanedTags", present? o.removeOrphanedTags),
  ("syncOnFileCreate", present? o.syncOnFileCreate),
  ("syncOnFileMove", present? o.syncOnFileMove),
  ("syncOnFileRename", present? o.syncOnFileRename),
  ("onConflict", o.onConflict.map Choice.value),
  ("tagSpecificity", o.tagSpecificity.map Choice.value),
  ("removeSourceTag", present? o.removeSourceTag),
  ("keepDestinationTag", present? o.keepDestinationTag),
  ("keepRelationTags", present? o.keepRelationTags),
  ("handleFolderNote", present? o.handleFolderNote),
  ("moveAttachments", present? o.moveAttachments)]

theorem Options.toValue_eq (o : Options) : o.toValue = Value.ofFields (setFields o.slots) := rfl

theorem Options.names_slots_subset (o : Options) : o.slots.map Prod.fst ⊆ fieldNames :=
  List.Subset.refl fieldNames

theorem Options.nodup_slots (o : Options) : (o.slots.map Prod.fst).Nodup := by
  simp [slots]

theorem Options.ofValue_ofFields {fields : List (String × Value)}
    (h : ∀ f ∈ fields, f.1 ∈ fieldNames) :
    Options.ofValue (Value.ofFields fields) = ofEntries (Value.entriesOf fields) := by
  have hset : (if (Value.ofFields fields).isSet then Value.ofFields fields else .map []) =
      Value.ofFields fields := by
    cases fields <;> rfl
  rw [Options.ofValue, hset, knownFields_ofFields h, ok_bind]

/-- A switch that holds nothing is read as its default. -/
def Options.settled (o : Options) : Options :=
  { o with
    createFolders := (present? o.createFolders).getD (.bool true)
    addTags := (present? o.addTags).getD (.bool true)
    removeOrphanedTags := (present? o.removeOrphanedTags).getD (.bool false)
    syncOnFileCreate := (present? o.syncOnFileCreate).getD (.bool true)
    syncOnFileMove := (present? o.syncOnFileMove).getD (.bool true)
    syncOnFileRename := (present? o.syncOnFileRename).getD (.bool true) }

theorem Options.hasSwitches_settled (o : Options) : o.settled.HasSwitches where
  createFolders := getD_present?_ne_null nofun
  addTags := getD_present?_ne_null nofun
  removeOrphanedTags := getD_present?_ne_null nofun
  syncOnFileCreate := getD_present?_ne_null nofun
  syncOnFileMove := getD_present?_ne_null nofun
  syncOnFileRename := getD_present?_ne_null nofun

theorem Options.settled_eq_self_iff {o : Options} : o.settled = o ↔ o.HasSwitches := by
  constructor
  · intro h
    exact h ▸ o.hasSwitches_settled
  · intro h
    rw [settled, getD_present?_of_ne h.createFolders, getD_present?_of_ne h.addTags,
      getD_present?_of_ne h.removeOrphanedTags, getD_present?_of_ne h.syncOnFileCreate,
      getD_present?_of_ne h.syncOnFileMove, getD_present?_of_ne h.syncOnFileRename]

theorem Options.ofValue_toValue (o : Options) : Options.ofValue o.toValue = .ok o.settled := by
  rw [toValue_eq, ofValue_ofFields (mem_of_mem_setFields o.names_slots_subset), ofEntries]
  simp only [fieldOr_setFields o.nodup_slots]
  simp only [slots, List.lookup_cons, String.reduceBEq, beq_self_eq_true, Option.join_some,
    getD_present?]
  rw [readChoice_getD (by rintro (_ | _) <;> rfl), ok_bind,
    readChoice_getD (by rintro (_ | _) <;> rfl), ok_bind, pure_eq_ok, settled]

/-! ## Rules -/

/-- The fields of a stored rule with a direction. -/
def slots (r : Rule) (d : Direction) : List (String × Option Value) := [
  ("id", some r.id), ("name", some r.name), ("enabled", some r.enabled),
  ("priority", some r.priority), ("direction", some (Choice.value d)),
  ("description", present? r.description),
  ("folderPattern", r.folder.pattern.map .text),
  ("folderEntryPoint", r.folder.entryPoint.map .text),
  ("tagPattern", r.tag.pattern.map .text),
  ("tagEntryPoint", r.tag.entryPoint.map .text),
  ("folderTransforms", r.folder.recipe.map Recipe.toValue),
  ("tagTransforms", r.tag.recipe.map Recipe.toValue),
  ("options", some r.options.toValue)]

theorem toValue_eq {r : Rule} {d : Direction} (h : r.direction = some d) :
    r.toValue = .ok (Value.ofFields (setFields (r.slots d))) := by
  have hparts : r.slots d =
      (r.slots d).take 5 ++ ((r.slots d).drop 5).take 7 ++ (r.slots d).drop 12 := rfl
  rw [toValue, h, directionName, ok_bind, pure_eq_ok, hparts, setFields_append, setFields_append]
  rfl

theorem nodup_slots (r : Rule) (d : Direction) : ((r.slots d).map Prod.fst).Nodup := by
  simp [slots]

theorem names_slots_subset (r : Rule) (d : Direction) : (r.slots d).map Prod.fst ⊆ fieldNames := by
  simp [slots, fieldNames]

/-- How a stored rule is read whose fields are all known. -/
theorem ofValue_ofFields {fields : List (String × Value)} (h : ∀ f ∈ fields, f.1 ∈ fieldNames)
    (hneeded : ∀ name ∈ neededFields, name ∈ fields.map Prod.fst) :
    Rule.ofValue (Value.ofFields fields) = (do
      let entries := Value.entriesOf fields
      let folderRecipe ← readRecipe (fieldOr entries "folderTransforms" .null)
      let tagRecipe ← readRecipe (fieldOr entries "tagTransforms" .null)
      let options ← Options.ofValue (fieldOr entries "options" .null)
      ofEntries entries folderRecipe tagRecipe options) := by
  have hmissing : (neededFields.filter fun name =>
      !Value.hasField name (Value.entriesOf fields)) = [] := by
    rw [List.filter_eq_nil_iff]
    intro name hname
    simpa using Value.hasField_entriesOf_iff.2 (hneeded name hname)
  rw [Rule.ofValue, knownFields_ofFields h, ok_bind, hmissing]
  rfl

theorem readRecipe_getD (recipe : Option Recipe) :
    readRecipe ((recipe.map Recipe.toValue).getD .null) = .ok recipe := by
  cases recipe with
  | none => rfl
  | some recipe =>
      have hread : readRecipe recipe.toValue = some <$> Recipe.ofValue recipe.toValue := rfl
      rw [Option.map_some, Option.getD_some, hread, Recipe.ofValue_toValue, map_ok]

/-- A rule whose options have their defaults where they held nothing. -/
def settled (r : Rule) : Rule := { r with options := r.options.settled }

/-- A rule is read again from its stored form, but for switches that held nothing. -/
theorem ofValue_toValue_settled {r : Rule} {v : Value} (h : r.toValue = .ok v) :
    Rule.ofValue v = .ok r.settled := by
  cases hd : r.direction with
  | none => simp [toValue, hd, directionName] at h
  | some d =>
      rw [toValue_eq hd, Except.ok.injEq] at h
      subst h
      have hneeded : ∀ name ∈ neededFields, name ∈ (setFields (r.slots d)).map Prod.fst := by
        simp [neededFields, slots, mem_names_setFields_iff]
      rw [ofValue_ofFields (mem_of_mem_setFields (r.names_slots_subset d)) hneeded]
      simp only [ofEntries, fieldOr_setFields (r.nodup_slots d)]
      simp only [slots, List.lookup_cons, String.reduceBEq, beq_self_eq_true, Option.join_some,
        Option.getD_some, readRecipe_getD, Options.ofValue_toValue, ok_bind, readText_getD,
        getD_present?]
      rw [readChoice_value (by rintro (_ | _) <;> rfl), ok_bind, pure_eq_ok, ← hd, settled]

/-- A rule is read back from its stored form. -/
theorem ofValue_toValue {r : Rule} (hswitches : r.options.HasSwitches) {v : Value}
    (h : r.toValue = .ok v) : Rule.ofValue v = .ok r := by
  rw [ofValue_toValue_settled h, settled, Options.settled_eq_self_iff.2 hswitches]

end Rule

end FolderTag
