import FolderTag.Document.Yaml.Reader
import FolderTag.Proofs.Document.Linked
import FolderTag.Proofs.Outcome

/-! # Names in block documents

No name stands twice in a mapping of a block document: the entries that a mapping takes over and its
own ones are put into it one after the other, and a later one takes the place of an earlier one. -/

namespace FolderTag.Document.Yaml

namespace Node

variable {entries own : List (Value × Linked)} {v : Value}

theorem hasDistinctNames_putAll (h : Value.HasDistinctNames (.map (Linked.entryValues entries)))
    (hown : ∀ e ∈ own, Value.HasDistinctNames e.2.value) :
    Value.HasDistinctNames (.map (Linked.entryValues (putAll entries own))) := by
  induction own generalizing entries with
  | nil => exact h
  | cons e own ih =>
      rw [List.forall_mem_cons] at hown
      refine ih ?_ hown.2
      rw [Linked.entryValues_put]
      exact h.put e.1 hown.1

/-- A text never stands for a mapping. -/
theorem ne_map_of_valueOf {kind : Kind} {text : String} {entries : Entries}
    (h : valueOf kind text = .ok v) : v ≠ .map entries := by
  rintro rfl
  unfold valueOf at h
  cases kind with
  | bool =>
      cases hread : truthWords.lookup (String.ofList (Text.lower text.toList)) <;>
        simp [hread] at h
  | int => cases hread : whole? text.toList <;> simp [hread] at h
  | float => cases hread : float? text.toList <;> simp [hread] at h
  | stamp =>
      cases hread : Stamp.read? text.toList with
      | none => simp [hread] at h
      | some stamp =>
          cases stamp with
          | day d => by_cases hd : d.isValid = true <;> simp [hread, Stamp.value?, hd] at h
          | moment m => by_cases hm : m.isValid = true <;> simp [hread, Stamp.value?, hm] at h
  | _ => simp [refuse] at h

theorem hasDistinctNames_of_scalarValue {tag : Option String} {text : String} {plain asKey : Bool}
    (h : scalarValue tag text plain asKey = .ok v) : Value.HasDistinctNames v := by
  obtain ⟨kind, -, h⟩ := bind_eq_ok_iff.1 h
  exact .other fun entries => ne_map_of_valueOf h

mutual

theorem hasDistinctNames_of_linked (n : Node) {t : Linked} (h : n.linked = .ok t) :
    t.value.HasDistinctNames := by
  match n with
  | .scalar tag text plain =>
      rw [linked] at h
      obtain ⟨v, hv, h⟩ := bind_eq_ok_iff.1 h
      cases h
      exact hasDistinctNames_of_scalarValue hv
  | .list tag items =>
      rw [linked] at h
      obtain ⟨-, -, h⟩ := bind_eq_ok_iff.1 h
      obtain ⟨ts, -, h⟩ := bind_eq_ok_iff.1 h
      cases h
      exact .other (by simp [Linked.value])
  | .map mark tag entries =>
      rw [linked] at h
      obtain ⟨-, -, h⟩ := bind_eq_ok_iff.1 h
      obtain ⟨⟨merged, own⟩, hparts, h⟩ := bind_eq_ok_iff.1 h
      cases h
      obtain ⟨hmerged, hown⟩ := forall_of_entryParts entries hparts
      have hnil : Value.HasDistinctNames (.map (Linked.entryValues [])) := Value.hasDistinctNames_nil
      exact hasDistinctNames_putAll (hasDistinctNames_putAll hnil hmerged) hown

theorem forall_of_entryParts (ns : List (Node × Node)) {merged own : List (Value × Linked)}
    (h : entryParts ns = .ok (merged, own)) :
    (∀ e ∈ merged, e.2.value.HasDistinctNames) ∧ ∀ e ∈ own, e.2.value.HasDistinctNames := by
  match ns with
  | [] =>
      rw [entryParts] at h
      cases h
      simp
  | (k, n) :: rest =>
      rw [entryParts] at h
      split_ifs at h
      · obtain ⟨es, hes, h⟩ := bind_eq_ok_iff.1 h
        obtain ⟨⟨merged', own'⟩, hrest, h⟩ := bind_eq_ok_iff.1 h
        cases h
        obtain ⟨hmerged, hown⟩ := forall_of_entryParts rest hrest
        exact ⟨List.forall_mem_append.2 ⟨forall_of_mergedEntries n hes, hmerged⟩, hown⟩
      · obtain ⟨key, -, h⟩ := bind_eq_ok_iff.1 h
        dsimp only at h
        split_ifs at h
        · cases h
        · obtain ⟨x, hx, h⟩ := bind_eq_ok_iff.1 h
          obtain ⟨⟨merged', own'⟩, hrest, h⟩ := bind_eq_ok_iff.1 h
          cases h
          obtain ⟨hmerged, hown⟩ := forall_of_entryParts rest hrest
          exact ⟨hmerged, List.forall_mem_cons.2 ⟨hasDistinctNames_of_linked n hx, hown⟩⟩

theorem forall_of_mergedEntries (n : Node) {es : List (Value × Linked)}
    (h : mergedEntries n = .ok es) : ∀ e ∈ es, e.2.value.HasDistinctNames := by
  match n with
  | .scalar .. =>
      rw [mergedEntries] at h
      cases h
  | .list tag items =>
      rw [mergedEntries] at h
      exact forall_of_mergedItems items h
  | .map _ tag entries =>
      rw [mergedEntries] at h
      obtain ⟨⟨merged, own⟩, hparts, h⟩ := bind_eq_ok_iff.1 h
      cases h
      exact List.forall_mem_append.2 (forall_of_entryParts entries hparts)

theorem forall_of_mergedItems (ns : List Node) {es : List (Value × Linked)}
    (h : mergedItems ns = .ok es) : ∀ e ∈ es, e.2.value.HasDistinctNames := by
  match ns with
  | [] =>
      rw [mergedItems] at h
      cases h
      simp
  | .map _ tag entries :: rest =>
      rw [mergedItems] at h
      obtain ⟨⟨merged, own⟩, hparts, h⟩ := bind_eq_ok_iff.1 h
      obtain ⟨es', hes, h⟩ := bind_eq_ok_iff.1 h
      cases h
      exact List.forall_mem_append.2 ⟨forall_of_mergedItems rest hes,
        List.forall_mem_append.2 (forall_of_entryParts entries hparts)⟩
  | .scalar .. :: _ => simp [mergedItems, refuse] at h
  | .list .. :: _ => simp [mergedItems, refuse] at h

end

end Node

/-- In what is read from a block document no name stands twice. -/
theorem hasDistinctNames_of_read {characters : List Char} {t : Linked}
    (h : read characters = .ok t) : t.value.HasDistinctNames := by
  obtain ⟨ts, -, h⟩ := bind_eq_ok_iff.1 h
  obtain ⟨root, -, h⟩ := bind_eq_ok_iff.1 h
  cases root with
  | none =>
      cases h
      exact .other (by simp [Linked.value])
  | some n => exact n.hasDistinctNames_of_linked h

end FolderTag.Document.Yaml
