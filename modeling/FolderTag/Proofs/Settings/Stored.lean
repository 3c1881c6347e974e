import FolderTag.Proofs.Document.Json.RoundTrip
import FolderTag.Proofs.Files.Tree
import FolderTag.Proofs.Rule.Typed
import FolderTag.Proofs.Settings.RuleSet
import FolderTag.Settings.Stored

/-! # Rule sets in JSON files

A rule set whose fields are of their kinds is read back from the JSON file that it was written to. -/

namespace FolderTag.RuleSet

open FolderTag.Document FolderTag.Document.Json FolderTag.Files FolderTag.Settings

variable {s : RuleSet} {v document : Value} {files written : Tree} {path : String}

/-- The rules have different texts for ids, their fields are of their kinds, and JSON can hold the
options of the host. -/
structure IsTyped (s : RuleSet) : Prop where
  ids : ∃ ids : List String, s.rules.map (·.id) = ids.map .text ∧ ids.Nodup
  rules : ∀ r ∈ s.rules, r.IsTyped
  options : IsJson (.map s.options)

/-- The priorities of all rules have few enough digits to be written. -/
def HasShortPriorities (s : RuleSet) : Prop := ∀ r ∈ s.rules, r.HasShortPriority

/-! ## Documents -/

theorem toValue_eq_ok_iff : s.toValue = .ok document ↔
    ∃ stored, List.Forall₂ (fun r v => r.toValue = .ok v) s.rules stored ∧
      Value.ofFields [("version", layoutVersion), ("rules", .list stored),
        ("options", .map s.options)] = document := by
  rw [toValue, bind_eq_ok_iff]
  simp only [mapM_eq_ok_iff, pure_eq_ok, Except.ok.injEq]

theorem exists_toValue (h : s.IsTyped) : ∃ document, s.toValue = .ok document := by
  obtain ⟨stored, hstored⟩ : ∃ stored, s.rules.mapM Rule.toValue = .ok stored := by
    refine exists_mapM_eq_ok fun r hr => ?_
    obtain ⟨d, hd⟩ := (h.rules r hr).direction
    exact ⟨_, Rule.toValue_eq hd⟩
  exact ⟨_, toValue_eq_ok_iff.2 ⟨stored, mapM_eq_ok_iff.1 hstored, rfl⟩⟩

theorem isJson_toValue (h : s.IsTyped) (hshort : s.HasShortPriorities)
    (hdocument : s.toValue = .ok document) : IsJson document := by
  obtain ⟨stored, hstored, rfl⟩ := toValue_eq_ok_iff.1 hdocument
  have hrules : IsJson (.list stored) := by
    refine .list fun v hv => ?_
    obtain ⟨r, hr, hvalue⟩ := exists_left_of_mem hstored hv
    exact (h.rules r hr).isJson (hshort r hr) hvalue
  refine .map (by simp) ?_
  simp only [List.forall_mem_cons, List.not_mem_nil, false_implies, implies_true, and_true]
  exact ⟨.text _, hrules, h.options⟩

theorem hasShortPriorities_of_obstacle? (hdocument : s.toValue = .ok document)
    (hnone : Json.obstacle? document = none) : s.HasShortPriorities := by
  obtain ⟨stored, hstored, rfl⟩ := toValue_eq_ok_iff.1 hdocument
  have hlist : Json.obstacle? (.list stored) = none :=
    obstacle?_ofFields_eq_none_iff.1 hnone ("rules", .list stored) (by simp)
  intro r hr
  obtain ⟨v, hv, hvalue⟩ := exists_right_of_mem hstored hr
  exact Rule.hasShortPriority_of_obstacle? hvalue (obstacle?_list_eq_none_iff.1 hlist v hv)

/-- A rule set is read back from its document. -/
theorem ofValue_of_toValue (hread : ofValue v = .ok s) (h : s.IsTyped)
    (hdocument : s.toValue = .ok document) : ofValue document = .ok s := by
  obtain ⟨ids, hids, hnodup⟩ := h.ids
  obtain ⟨fields, hoptions, hnames⟩ := h.options.exists_fields
  refine ofValue_toValue hread hids hnodup ?_ hoptions hnames hdocument
  intro r hr stored hstored
  exact Rule.ofValue_toValue (h.rules r hr).options.hasSwitches hstored

/-! ## Files -/

variable (hpath : isJson (Path.ofString path) = true)

include hpath

theorem dump_eq_ok_iff : s.dump files path = .ok written ↔
    ∃ document, s.toValue = .ok document ∧ Json.obstacle? document = none ∧
      files.write (Path.ofString path) (String.ofList (Json.write document)).toUTF8 =
        .ok written := by
  rw [dump, bind_eq_ok_iff]
  simp only [mapError_eq_ok_iff, bind_eq_ok_iff, fileText, obstacle?, hpath, if_true]
  constructor
  · rintro ⟨document, hdocument, written', hwrite, h⟩
    split at h
    · cases h
    · rw [pure_eq_ok, Except.ok.injEq] at h
      exact ⟨document, hdocument, ‹_›, h ▸ hwrite⟩
  · rintro ⟨document, hdocument, hnone, hwrite⟩
    exact ⟨document, hdocument, written, hwrite, by rw [hnone]; rfl⟩

/-- A rule set is written to every place that a file can be written to, unless a priority has too
many digits. -/
theorem exists_dump_iff (h : s.IsTyped) :
    (∃ written, s.dump files path = .ok written) ↔
      (∃ place, files.target (Path.ofString path) = .ok place) ∧ s.HasShortPriorities := by
  simp only [dump_eq_ok_iff hpath]
  constructor
  · rintro ⟨written, document, hdocument, hnone, hwrite⟩
    exact ⟨Tree.exists_write_iff.1 ⟨written, hwrite⟩,
      hasShortPriorities_of_obstacle? hdocument hnone⟩
  · rintro ⟨hplace, hshort⟩
    obtain ⟨document, hdocument⟩ := exists_toValue h
    obtain ⟨written, hwrite⟩ := Tree.exists_write_iff.2 hplace
    exact ⟨written, document, hdocument, obstacle?_eq_none (isJson_toValue h hshort hdocument),
      hwrite⟩

theorem load_of_dump (hread : ofValue v = .ok s) (h : s.IsTyped)
    (hdump : s.dump files path = .ok written) : load written path = .ok s := by
  obtain ⟨document, hdocument, hnone, hwrite⟩ := (dump_eq_ok_iff hpath).1 hdump
  have hjson := isJson_toValue h (hasShortPriorities_of_obstacle? hdocument hnone) hdocument
  have htext : Settings.readText (String.ofList (Json.write document)).toUTF8 =
      .ok (Json.write document) := by
    rw [Settings.readText, textOf?_toUTF8 (notMem_write hjson)]
  have hvalue : readJson path (Json.write document) = .ok document := by
    rw [readJson, read_write hjson]
  have hsame : ofValue document = .ok s := ofValue_of_toValue hread h hdocument
  rw [load]
  simp only [Tree.has_of_write hwrite, Tree.read_of_write hwrite, mapError_ok, ok_bind, htext, hpath,
    hvalue, Bool.not_true, Bool.false_eq_true, if_false, if_true]
  obtain ⟨stored, -, rfl⟩ := toValue_eq_ok_iff.1 hdocument
  exact hsame

omit hpath

end FolderTag.RuleSet
