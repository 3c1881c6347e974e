import FolderTag.Command.Session
import FolderTag.Proofs.Settings.Typed

/-! # The settings of a session

A session reads of its settings a level, the file of a log, and switches, and takes each of them to
be of its kind. -/

namespace FolderTag.Command

open FolderTag.Document FolderTag.Files FolderTag.Settings

variable {around : Surroundings} {r : Request} {path : Option String} {l l' : Layers}
  {key part name : String}

theorem isStacked_of_sayText {said? : Option String} (hkey : keyParts key = [part, name])
    (hl : l.IsStacked) (h : sayText l key said? = .ok l') : l'.IsStacked := by
  cases said? with
  | none =>
      cases h
      exact hl
  | some s =>
      rw [sayText, mapError_eq_ok_iff] at h
      exact hl.set hkey ⟨by simp, by simp⟩ h

/-- Settings that a session loads passed their check, and come from the defaults, a file, the
environment and the command line. -/
theorem isStacked_of_loadLayers (h : loadLayers around r path = .ok l) :
    l.IsStacked ∧ l.validate Schema.settings = .ok () := by
  obtain ⟨loaded, hload, h⟩ := bind_eq_ok_iff.1 h
  obtain ⟨l₁, hlevel, h⟩ := bind_eq_ok_iff.1 h
  obtain ⟨l₂, hfile, h⟩ := bind_eq_ok_iff.1 h
  obtain ⟨⟨⟩, hvalid, h⟩ := bind_eq_ok_iff.1 h
  cases h
  rw [mapError_eq_ok_iff] at hload hvalid
  have hloaded := (Layers.isLoaded_of_load hload).isStacked
  exact ⟨isStacked_of_sayText rfl (isStacked_of_sayText rfl hloaded hlevel) hfile, hvalid⟩

/-- What is read of the settings of a session is well typed: the level is a text, the file of the
log is a text if there is one, and the switches are truth values. -/
theorem settings_typed_of_loadLayers (h : loadLayers around r path = .ok l) :
    (∃ s, l.get? "logging.level" = some (.text s)) ∧
    (l.get? "logging.file" = none ∨ ∃ s, l.get? "logging.file" = some (.text s)) ∧
    (∃ b, (l.get? "matching.include_disabled").getD (.bool false) = .bool b) ∧
    ∃ b, (l.get? "transforms.preserve_on_error").getD (.bool false) = .bool b := by
  obtain ⟨hl, hvalid⟩ := isStacked_of_loadLayers h
  have hlevel : (Schema.fields Schema.settings).Expects ["logging", "level"] ["str"] :=
    Schema.expects_of_lookup rfl rfl
  have hfile : (Schema.fields Schema.settings).Expects ["logging", "file"] ["str", "NoneType"] :=
    Schema.expects_of_lookup rfl rfl
  have htransforms :
      (Schema.fields Schema.settings).Expects ["transforms", "preserve_on_error"] ["bool"] :=
    Schema.expects_of_lookup rfl rfl
  have hmatching :
      (Schema.fields Schema.settings).Expects ["matching", "include_disabled"] ["bool"] :=
    Schema.expects_of_lookup rfl rfl
  have hlevelKey : keyParts "logging.level" = ["logging", "level"] := by rfl
  refine ⟨?_, ?_, hl.exists_bool hvalid rfl hmatching, hl.exists_bool hvalid rfl htransforms⟩
  · have hsaid : valueAt? (keyParts "logging.level") (Value.ofFields defaultSettings) =
        some (.text "WARNING") := by
      rw [hlevelKey]
      rfl
    obtain ⟨v, hv⟩ := Layers.exists_get? hl.defaults hsaid (by simp)
    obtain ⟨s, rfl⟩ := exists_text_of_isOfKind
      (hl.isOfKind_of_get? hvalid hlevelKey hlevel (by decide) hv)
    exact ⟨s, hv⟩
  · cases hv : l.get? "logging.file" with
    | none => exact .inl rfl
    | some v =>
        have hkind := hl.isOfKind_of_get? hvalid rfl hfile (by decide) hv
        obtain ⟨s, rfl⟩ := exists_text_of_isOfKind_or_null hkind (Layers.ne_null_of_get? hv)
        exact .inr ⟨s, rfl⟩

/-- A file, the environment and a switch each say something. -/
theorem settings_typed_of_loadLayers_switched :
    let around : Surroundings := {
      files := {
        root := ["/"]
        entries := [(["dyntags.yaml"],
          .file "matching:\n  include_disabled: true\n".toUTF8)] }
      «variables» := [("DYNTAGS_LOGGING_LEVEL", "info")]
      time := "" }
    let r : Request :=
      { settings := none, debug := false, logFile := some "run.log", task := .validate }
    ∃ l, loadLayers around r (some "dyntags.yaml") = .ok l ∧
      (∃ s, l.get? "logging.level" = some (.text s)) ∧
      (l.get? "logging.file" = none ∨ ∃ s, l.get? "logging.file" = some (.text s)) ∧
      (∃ b, (l.get? "matching.include_disabled").getD (.bool false) = .bool b) ∧
      ∃ b, (l.get? "transforms.preserve_on_error").getD (.bool false) = .bool b := by
  intro around r
  have hloads : (loadLayers around r (some "dyntags.yaml")).toBool = true := by decide +kernel
  cases h : loadLayers around r (some "dyntags.yaml") with
  | ok l => exact ⟨l, rfl, settings_typed_of_loadLayers h⟩
  | error failure =>
      rw [h] at hloads
      cases hloads

end FolderTag.Command
