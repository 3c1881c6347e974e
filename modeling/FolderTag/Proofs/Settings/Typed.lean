import FolderTag.Proofs.Document.Yaml.Reader
import FolderTag.Proofs.Settings.Schema
import FolderTag.Proofs.Settings.Sections

/-! # Typed settings

Settings are checked in their merged view and read from one source after the other. Where only a
file and sections lie on the defaults, what is read of checked settings is of the expected kinds all
the same. -/

namespace FolderTag.Settings

open FolderTag.Document FolderTag.Files

variable {l l' : Layers} {key part name : String} {names : List String} {v : Value}
  {files : Tree} {environment : List (String × String)}

/-! ## Sources on the defaults -/

theorem hasDistinctNames_of_readBlock {path : String} {text : List Char} {t : Linked}
    (h : readBlock path text = .ok t) : t.value.HasDistinctNames := by
  rw [readBlock] at h
  split at h
  · rename_i hread
    cases h
    exact Yaml.hasDistinctNames_of_read hread
  · cases h
  · cases h

/-- A settings file either holds nothing or a mapping. -/
theorem eq_or_readBlock_of_readSettings {path : String} {t : Linked}
    (h : readSettings files path = .ok t) :
    t = .plain (.map []) ∨
      ∃ text entries, readBlock path text = .ok t ∧ t.value = .map entries := by
  rw [readSettings] at h
  split_ifs at h
  · cases h
  · obtain ⟨bytes, -, h⟩ := bind_eq_ok_iff.1 h
    obtain ⟨text, -, h⟩ := bind_eq_ok_iff.1 h
    obtain ⟨held, hblock, h⟩ := bind_eq_ok_iff.1 h
    split at h
    · cases h
      exact .inl rfl
    · rename_i entries hentries
      cases h
      exact .inr ⟨text, entries, hblock, hentries⟩
    · cases h

/-- In what is read from a settings file no name stands twice. -/
theorem hasDistinctNames_of_readSettings {path : String} {t : Linked}
    (h : readSettings files path = .ok t) : t.value.HasDistinctNames := by
  obtain rfl | ⟨text, entries, hblock, -⟩ := eq_or_readBlock_of_readSettings h
  · exact Value.hasDistinctNames_nil
  · exact hasDistinctNames_of_readBlock hblock

namespace Layers

/-- Sources as they are before a run changes something: on the defaults lies what a file says, and
on that lie sections. -/
structure IsStacked (l : Layers) : Prop where
  defaults : l.layer .defaults = some (Value.ofFields defaultSettings)
  userFile : ∀ v, l.layer .userFile = some v → v.HasDistinctNames
  environment : l.SaysSections .environment
  commandLine : l.SaysSections .commandLine
  run : l.layer .run = none

theorem IsLoaded.isStacked (h : IsLoaded files environment l) : l.IsStacked where
  defaults := h.defaults
  userFile := by
    intro v hv
    obtain ⟨t, ht, rfl⟩ := Option.map_eq_some_iff.1 hv
    obtain ⟨path, hread⟩ := h.userFile t ht
    exact hasDistinctNames_of_readSettings hread
  environment := by
    intro t ht
    rw [h.environment] at ht
    obtain ⟨v, hv, rfl⟩ := Option.map_eq_some_iff.1 ht
    obtain ⟨entries, rfl, hsections⟩ := sections_of_environmentLayer? hv
    exact ⟨entries, rfl, hsections⟩
  commandLine := by simp [SaysSections, h.commandLine]
  run := by simp [layer, h.run]

/-- A plain value in a section of the command line keeps sources on the defaults. -/
theorem IsStacked.set (h : l.IsStacked) (hkey : keyParts key = [part, name]) (hv : IsPlain v)
    (hset : l.set .commandLine key v = .ok l') : l'.IsStacked where
  defaults := (layer_of_set hset (by decide)).trans h.defaults
  userFile := by
    rw [layer_of_set hset (by decide)]
    exact h.userFile
  environment := by
    rw [SaysSections, content_of_set hset (by decide)]
    exact h.environment
  commandLine := h.commandLine.set_plain hkey hv hset
  run := (layer_of_set hset (by decide)).trans h.run

end Layers

/-! ## Kinds of what is found -/

theorem exists_text_of_isOfKind (h : ["str"].any (Schema.isOfKind v) = true) :
    ∃ s, v = .text s := by
  cases v with
  | text s => exact ⟨s, rfl⟩
  | _ => cases h

theorem exists_bool_of_isOfKind (h : ["bool"].any (Schema.isOfKind v) = true) :
    ∃ b, v = .bool b := by
  cases v with
  | bool b => exact ⟨b, rfl⟩
  | _ => cases h

theorem exists_text_of_isOfKind_or_null
    (h : ["str", "NoneType"].any (Schema.isOfKind v) = true) (hne : v ≠ .null) :
    ∃ s, v = .text s := by
  cases v with
  | text s => exact ⟨s, rfl⟩
  | null => exact absurd rfl hne
  | _ => cases h

theorem not_isOfKind_map (h : "dict" ∉ names) (entries : Entries) :
    ¬ names.any (Schema.isOfKind (.map entries)) = true := by
  rw [List.any_eq_true]
  rintro ⟨name, hname, hkind⟩
  simp only [Schema.isOfKind, Bool.or_eq_true, Bool.and_eq_true, decide_eq_true_eq] at hkind
  rcases hkind with hsame | ⟨-, hbool⟩
  · have hdict : "dict" = name := hsame
    exact h (hdict ▸ hname)
  · exact absurd (show "dict" = "bool" from hbool) (by decide)

/-- The defaults pass their own check. -/
theorem checkFields_defaultSettings :
    Schema.checkFields "" Schema.settings (Value.entriesOf defaultSettings) = .ok () := rfl

namespace Layers

theorem ne_null_of_get? (h : l.get? key = some v) : v ≠ .null := by
  obtain ⟨s, -, hs⟩ := List.exists_of_findSome?_eq_some h
  obtain ⟨-, -, -, hne⟩ := sayingAt?_eq_some_iff.1 hs
  exact hne

/-- A key about which the defaults say something is never left open. -/
theorem exists_get? (h : l.layer .defaults = some (Value.ofFields defaultSettings))
    (hv : valueAt? (keyParts key) (Value.ofFields defaultSettings) = some v) (hne : v ≠ .null) :
    ∃ w, l.get? key = some w := by
  have hsaid : l.sayingAt? key .defaults = some v := sayingAt?_eq_some_iff.2 ⟨_, h, hv, hne⟩
  rw [← Option.isSome_iff_exists, get?, List.findSome?_isSome_iff]
  exact ⟨.defaults, by decide, by rw [hsaid]; rfl⟩

section Kinds

variable (h : l.IsStacked) (hvalid : l.validate Schema.settings = .ok ())
  (hkey : keyParts key = [part, name])
  (hexpects : (Schema.fields Schema.settings).Expects [part, name] names)
  (hdict : "dict" ∉ names)

include h hkey hexpects hdict

/-- What is found in sources on the defaults is of the expected kind if the merged view is: a file
lies on the defaults alone, and what lies on it hides nothing. -/
theorem IsStacked.agrees :
    l.Agrees key (fun v => names.any (Schema.isOfKind v) = true) Source.all := by
  have hmap := not_isOfKind_map hdict
  have hdefaults (v : Value) (hv : l.found? key [.defaults] = some v) :
      names.any (Schema.isOfKind v) = true := by
    obtain ⟨s, hs, hsaid⟩ := List.exists_of_findSome?_eq_some hv
    obtain rfl : s = .defaults := by simpa using hs
    obtain ⟨w, hw, hvalue, -⟩ := sayingAt?_eq_some_iff.1 hsaid
    rw [h.defaults, Option.some.injEq] at hw
    subst hw
    rw [hkey] at hvalue
    exact Schema.isOfKind_of_checkFields hexpects checkFields_defaultSettings hvalue
  have huserFile := agrees_concat_of_found hmap h.userFile hdefaults
  have henvironment := agrees_concat_of_isOpen hmap
    (fun v => h.environment.hasDistinctNames) (h.environment.isOpen hkey) huserFile
  have hcommandLine := agrees_concat_of_isOpen hmap
    (fun v => h.commandLine.hasDistinctNames) (h.commandLine.isOpen hkey) henvironment
  exact agrees_concat_of_isOpen hmap (by simp [h.run]) (by simp [IsOpen, h.run]) hcommandLine

include hvalid

theorem IsStacked.isOfKind_of_get? (hv : l.get? key = some v) :
    names.any (Schema.isOfKind v) = true := by
  obtain ⟨merged, hmerged, hview⟩ := isOfKind_of_validate hvalid hexpects
  rw [get?_eq_found?] at hv
  exact h.agrees hkey hexpects hdict merged hmerged (by rwa [hkey]) v hv

end Kinds

/-- A switch is a truth value, or nothing is said about it. -/
theorem IsStacked.exists_bool (h : l.IsStacked) (hvalid : l.validate Schema.settings = .ok ())
    (hkey : keyParts key = [part, name])
    (hexpects : (Schema.fields Schema.settings).Expects [part, name] ["bool"]) :
    ∃ b, (l.get? key).getD (.bool false) = .bool b := by
  cases hv : l.get? key with
  | none => exact ⟨false, rfl⟩
  | some v => exact exists_bool_of_isOfKind (h.isOfKind_of_get? hvalid hkey hexpects (by decide) hv)

end Layers

end FolderTag.Settings
