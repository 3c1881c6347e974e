import FolderTag.Proofs.Document.TextKeys
import FolderTag.Proofs.Rule.Fields
import FolderTag.Rule.Basic

/-! # How rules fail to be read

A stored rule with text keys that cannot be read violates the layout of rules, unless one of two
things happens: a recipe has something in the place of its rewrites that is set and has no items, or
a message would show a whole number with too many digits. -/

namespace FolderTag

open FolderTag.Document FolderTag.Rule FolderTag.Transform

variable {P : Misuse → Prop} {v w d : Value} {entries : Entries} {items : List Value}
  {name : String}

namespace Rule

/-- A violation, or a misuse of a sort. -/
def Fault.Within (P : Misuse → Prop) : Fault → Prop
  | .violation _ => True
  | .misuse m => P m

/-- A value with text keys; if a number in it cannot be shown, that is a misuse of the sort. -/
structure Suits (P : Misuse → Prop) (v : Value) : Prop where
  keys : v.HasTextKeys
  digits : v.isShowable = false → P .tooManyDigits

theorem suits_null : Suits P .null := ⟨.null, nofun⟩

theorem suits_text (s : String) : Suits P (.text s) := ⟨.text s, nofun⟩

theorem suits_ofFields_nil : Suits P (Value.ofFields []) := ⟨.map (by simp), nofun⟩

theorem Suits.field (h : Suits P (.map entries)) (hv : Value.field? name entries = some v) :
    Suits P v where
  keys := h.keys.of_field? hv
  digits := fun hshow => h.digits (h.keys.not_isShowable hv hshow)

theorem Suits.fieldOr (h : Suits P (.map entries)) (hd : Suits P d) :
    Suits P (fieldOr entries name d) := by
  rw [Rule.fieldOr]
  cases hv : Value.field? name entries with
  | none => exact hd
  | some v => exact h.field hv

theorem Suits.item (h : Suits P (.list items)) (hv : v ∈ items) : Suits P v where
  keys := h.keys.of_mem v hv
  digits := by
    intro hshow
    refine h.digits ?_
    by_contra hwhole
    rw [Bool.not_eq_false, Value.isShowable_list_iff] at hwhole
    rw [hwhole v hv] at hshow
    cases hshow

/-! ## Single fields -/

theorem keyNames_map_text (names : List String) : keyNames (names.map .text) = .ok names := by
  induction names with
  | nil => rfl
  | cons name names ih =>
      rw [List.map_cons, keyNames, ih]
      rfl

theorem exists_strangeKeys (known : List String) (h : (Value.map entries).HasTextKeys) :
    ∃ names, strangeKeys known entries = .ok names := by
  obtain ⟨fields, rfl, -⟩ := h.exists_fields
  rw [strangeKeys, Value.keys_entriesOf, List.filter_map, keyNames_map_text]
  exact ⟨_, rfl⟩

theorem failsOnly_knownFields (what : String) (known : List String) (h : v.HasTextKeys) :
    FailsOnly (Fault.Within P) (knownFields what known v) := by
  cases v with
  | map entries =>
      obtain ⟨names, hnames⟩ := exists_strangeKeys known h
      rw [knownFields, hnames]
      cases names with
      | nil => exact failsOnly_ok _
      | cons name names => exact failsOnly_error trivial
  | _ => exact failsOnly_error trivial

theorem eq_map_of_knownFields {what : String} {known : List String}
    (h : knownFields what known v = .ok entries) : v = .map entries := by
  cases v with
  | map given =>
      rw [knownFields] at h
      split at h
      · cases h
        rfl
      · cases h
      · cases h
  | _ => cases h

theorem failsOnly_refuseShown {α : Type} (h : Suits P v) (violation : Violation) :
    FailsOnly (Fault.Within P) (refuseShown v violation : Except Fault α) := by
  rw [refuseShown]
  split_ifs with hshow
  · exact failsOnly_error trivial
  · exact failsOnly_error (h.digits (Bool.not_eq_true _ ▸ hshow))

theorem failsOnly_readChoice (α : Type) [Choice α] (h : Suits P v) :
    FailsOnly (Fault.Within P) (readChoice α v) := by
  rw [readChoice.eq_def]
  split
  · exact failsOnly_ok _
  · split
    · exact failsOnly_ok _
    · exact failsOnly_refuseShown h _

theorem failsOnly_readText (field : String) (v : Value) :
    FailsOnly (Fault.Within P) (readText field v) := by
  cases v with
  | null => exact failsOnly_ok _
  | text s => exact failsOnly_ok _
  | _ => exact failsOnly_error trivial

end Rule

/-! ## Recipes -/

namespace Transform

theorem Rewrite.failsOnly_ofValue (h : v.HasTextKeys) :
    FailsOnly (Fault.Within P) (Rewrite.ofValue v) := by
  refine (failsOnly_knownFields _ _ h).bind fun entries _ => ?_
  cases Value.field? "pattern" entries with
  | none => exact failsOnly_error trivial
  | some pattern => exact failsOnly_ok _

/-- Something is set that has no items. -/
def Rewrite.HasNoItems (v : Value) : Prop := v.isSet = true ∧ ∀ items, itemsOf v ≠ .ok items

theorem Rewrite.failsOnly_listOfValue (h : v.HasTextKeys)
    (hitems : HasNoItems v → P (.notIterable v.fullKind)) :
    FailsOnly (Fault.Within P) (Rewrite.listOfValue v) := by
  rw [listOfValue]
  split_ifs with hset
  · cases v with
    | list items => exact failsOnly_mapM fun w hw => failsOnly_ofValue (h.of_mem w hw)
    | map entries =>
        obtain ⟨fields, rfl, -⟩ := h.exists_fields
        refine failsOnly_mapM fun w hw => ?_
        rw [Value.keys_entriesOf] at hw
        obtain ⟨s, -, rfl⟩ := List.mem_map.1 hw
        exact failsOnly_ofValue (.text s)
    | text s =>
        refine failsOnly_mapM fun w hw => ?_
        obtain ⟨c, -, rfl⟩ := List.mem_map.1 hw
        exact failsOnly_ofValue (.text _)
    | _ => exact failsOnly_error (hitems ⟨hset, nofun⟩)
  · exact failsOnly_ok _

theorem Recipe.failsOnly_ofValue (h : Suits P v)
    (hitems : ∀ entries rewrites, v = .map entries →
      Value.field? "customTransforms" entries = some rewrites → Rewrite.HasNoItems rewrites →
      P (.notIterable rewrites.fullKind)) :
    FailsOnly (Fault.Within P) (Recipe.ofValue v) := by
  refine (failsOnly_knownFields _ _ h.keys).bind fun entries hentries => ?_
  obtain rfl := eq_map_of_knownFields hentries
  have hfield (name : String) : Suits P (fieldOr entries name .null) := h.fieldOr suits_null
  have hrewrites : FailsOnly (Fault.Within P)
      (Rewrite.listOfValue (fieldOr entries "customTransforms" .null)) := by
    refine Rewrite.failsOnly_listOfValue (hfield _).keys fun hnone => ?_
    cases hv : Value.field? "customTransforms" entries with
    | none =>
        rw [fieldOr, hv] at hnone
        cases hnone.1
    | some rewrites =>
        rw [fieldOr, hv] at hnone ⊢
        exact hitems entries rewrites rfl hv hnone
  refine hrewrites.bind fun rewrites _ => ?_
  exact (failsOnly_readChoice _ (hfield _)).bind fun _ _ =>
    (failsOnly_readChoice _ (hfield _)).bind fun _ _ =>
      (failsOnly_readChoice _ (hfield _)).bind fun _ _ => failsOnly_ok _

end Transform

/-! ## Rules -/

namespace Rule

theorem Options.failsOnly_ofEntries (h : Suits P (.map entries)) :
    FailsOnly (Fault.Within P) (Options.ofEntries entries) :=
  (failsOnly_readChoice _ (h.fieldOr suits_null)).bind fun _ _ =>
    (failsOnly_readChoice _ (h.fieldOr suits_null)).bind fun _ _ => failsOnly_ok _

theorem Options.failsOnly_ofValue (h : Suits P v) :
    FailsOnly (Fault.Within P) (Options.ofValue v) := by
  have hused : Suits P (if v.isSet then v else .map []) := by
    split_ifs
    · exact h
    · exact suits_ofFields_nil
  refine (failsOnly_knownFields _ _ hused.keys).bind fun entries hentries => ?_
  exact Options.failsOnly_ofEntries (eq_map_of_knownFields hentries ▸ hused)

theorem failsOnly_ofEntries (h : Suits P (.map entries)) (folder tag : Option Recipe)
    (options : Options) : FailsOnly (Fault.Within P) (ofEntries entries folder tag options) := by
  refine (failsOnly_readChoice _ (h.fieldOr (suits_text _))).bind fun _ _ => ?_
  exact (failsOnly_readText _ _).bind fun _ _ => (failsOnly_readText _ _).bind fun _ _ =>
    (failsOnly_readText _ _).bind fun _ _ => (failsOnly_readText _ _).bind fun _ _ =>
      failsOnly_ok _

/-- A recipe of a rule has something in the place of its rewrites that is set and has no items. -/
def HasBadRewrites (entries : Entries) (rewrites : Value) : Prop :=
  ∃ field recipe, (field = "folderTransforms" ∨ field = "tagTransforms") ∧
    Value.field? field entries = some (.map recipe) ∧
    Value.field? "customTransforms" recipe = some rewrites ∧ Rewrite.HasNoItems rewrites

theorem failsOnly_readRecipe {field : String}
    (hfield : field = "folderTransforms" ∨ field = "tagTransforms") (h : Suits P (.map entries))
    (hrewrites : ∀ rewrites, HasBadRewrites entries rewrites → P (.notIterable rewrites.fullKind)) :
    FailsOnly (Fault.Within P) (readRecipe (fieldOr entries field .null)) := by
  rw [fieldOr]
  cases hv : Value.field? field entries with
  | none => exact failsOnly_ok none
  | some v =>
      rw [Option.getD_some, readRecipe.eq_def]
      split
      · exact failsOnly_ok none
      · have hrecipe := Recipe.failsOnly_ofValue (h.field hv) fun recipe rewrites heq hset hnone =>
          hrewrites rewrites ⟨field, recipe, hfield, heq ▸ hv, hset, hnone⟩
        exact hrecipe.bind fun recipe _ => failsOnly_ok (some recipe)

theorem failsOnly_ofValue (h : Suits P v)
    (hrewrites : ∀ entries rewrites, v = .map entries → HasBadRewrites entries rewrites →
      P (.notIterable rewrites.fullKind)) : FailsOnly (Fault.Within P) (ofValue v) := by
  refine (failsOnly_knownFields _ _ h.keys).bind fun entries hentries => ?_
  obtain rfl := eq_map_of_knownFields hentries
  have hbad rewrites := hrewrites entries rewrites rfl
  dsimp only
  split_ifs
  · exact failsOnly_error trivial
  · refine (failsOnly_readRecipe (.inl rfl) h hbad).bind fun folder _ => ?_
    refine (failsOnly_readRecipe (.inr rfl) h hbad).bind fun tag _ => ?_
    refine (Options.failsOnly_ofValue (h.fieldOr suits_null)).bind fun options _ => ?_
    exact failsOnly_ofEntries h folder tag options

end Rule

end FolderTag
