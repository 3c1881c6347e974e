import FolderTag.Files.Tree
import FolderTag.Proofs.Outcome

/-! # Reading a file that was written

A file changes nothing about the folders on the way to it, so its path leads to it afterwards. -/

namespace FolderTag.Files

variable {bytes : ByteArray}

namespace Tree

variable {t t' : Tree} {p q here place : Path} {n : Node}

@[simp] theorem at?_put_self (t : Tree) (p : Path) (n : Node) : (t.put p n).at? p = some n := by
  simp [at?, put]

theorem lookup_filter_ne {entries : List (Path × Node)} (hne : q ≠ p) :
    (entries.filter fun (q', _) => q' ≠ p).lookup q = entries.lookup q := by
  induction entries with
  | nil => rfl
  | cons e entries ih =>
      obtain ⟨q', n⟩ := e
      by_cases he : q' = p
      · subst he
        have hother : (q == q') = false := beq_false_of_ne hne
        simpa [List.lookup_cons, hother] using ih
      · rw [List.filter_cons_of_pos (by simpa using he), List.lookup_cons, List.lookup_cons, ih]

theorem lookup_put_of_ne (hne : q ≠ p) : (t.put p n).entries.lookup q = t.entries.lookup q := by
  have hother : (q == p) = false := beq_false_of_ne hne
  rw [put, List.lookup_cons, hother]
  exact lookup_filter_ne hne

theorem at?_eq_folder_iff : t.at? q = some .folder ↔
    t.entries.lookup q = some .folder ∨
      t.entries.lookup q = none ∧ (isAround q = true ∨ ∃ e ∈ t.entries, q <+: e.1) := by
  have hway : (isAround q || t.entries.any fun (e, _) => q.isPrefixOf e) = true ↔
      isAround q = true ∨ ∃ e ∈ t.entries, q <+: e.1 := by
    simp only [Bool.or_eq_true, List.any_eq_true, List.isPrefixOf_iff_prefix]
  rw [at?, ← hway]
  cases hlookup : t.entries.lookup q with
  | some found => simp
  | none => simp only [reduceCtorEq, false_or, true_and, ite_eq_left_iff, imp_false,
      Decidable.not_not]

/-- What was a folder is still on the way to something. -/
theorem at?_put_of_folder (hq : t.at? q = some .folder) (hne : q ≠ p) :
    (t.put p n).at? q = some .folder := by
  rw [at?_eq_folder_iff, lookup_put_of_ne hne]
  refine (at?_eq_folder_iff.1 hq).imp_right fun ⟨hnone, hway⟩ => ⟨hnone, hway.imp_right ?_⟩
  rintro ⟨e, he, hprefix⟩
  by_cases hput : e.1 = p
  · exact ⟨(p, n), List.mem_cons_self .., hput ▸ hprefix⟩
  · exact ⟨e, List.mem_cons_of_mem _ (List.mem_filter.2 ⟨he, by simpa using hput⟩), hprefix⟩

theorem follow_put (h : t.follow here p = .ok place) (hplace : t.at? place ≠ some .folder) :
    (t.put place n).follow here p = .ok place := by
  induction p generalizing here with
  | nil => exact h
  | cons s p ih =>
      rw [follow] at h ⊢
      cases hhere : t.at? here with
      | none => simp [hhere] at h
      | some node =>
          cases node with
          | file _ => simp [hhere] at h
          | folder =>
              have hne : here ≠ place := fun heq => hplace (heq ▸ hhere)
              simp only [hhere] at h
              simp only [at?_put_of_folder hhere hne]
              exact ih h

theorem target_eq_ok_iff :
    t.target p = .ok place ↔ t.follow [] p = .ok place ∧ t.at? place ≠ some .folder := by
  rw [target, bind_eq_ok_iff]
  constructor
  · rintro ⟨reached, hfollow, h⟩
    split at h
    case h_1 => cases h
    case h_2 hnot =>
      rw [pure_eq_ok, Except.ok.injEq] at h
      subst h
      exact ⟨hfollow, hnot⟩
  · rintro ⟨hfollow, hplace⟩
    refine ⟨place, hfollow, ?_⟩
    split
    case h_1 hfolder => exact absurd hfolder hplace
    case h_2 => rfl

theorem exists_write_iff : (∃ t', t.write p bytes = .ok t') ↔ ∃ place, t.target p = .ok place := by
  rw [write]
  constructor
  · rintro ⟨t', h⟩
    obtain ⟨place, hplace, -⟩ := bind_eq_ok_iff.1 h
    exact ⟨place, hplace⟩
  · rintro ⟨place, hplace⟩
    exact ⟨_, by rw [hplace]; rfl⟩

/-- The path of a file that was written leads to it. -/
theorem find_of_write (h : t.write p bytes = .ok t') : t'.find p = .ok (.file bytes) := by
  obtain ⟨place, htarget, h⟩ := bind_eq_ok_iff.1 h
  obtain ⟨hfollow, hplace⟩ := target_eq_ok_iff.1 htarget
  rw [pure_eq_ok, Except.ok.injEq] at h
  subst h
  rw [find, follow_put hfollow hplace, ok_bind, at?_put_self]
  rfl

theorem has_of_write (h : t.write p bytes = .ok t') : t'.has p = true := by
  rw [has, find_of_write h]
  rfl

theorem read_of_write (h : t.write p bytes = .ok t') : t'.read p = .ok bytes := by
  rw [read, find_of_write h, ok_bind]
  rfl

end Tree

/-! ## Texts of files -/

theorem unifyBreaks_of_notMem {s : List Char} (h : '\r' ∉ s) : unifyBreaks s = s := by
  induction s with
  | nil => rfl
  | cons c s ih =>
      rw [List.mem_cons, not_or] at h
      rw [unifyBreaks, ih h.2]
      · rintro rest rfl
        simp at h
      · rintro rfl
        simp at h

theorem fromUTF8?_toUTF8 (s : String) : String.fromUTF8? s.toUTF8 = some s := by
  have hvalid : s.toUTF8.IsValidUTF8 := s.isValidUTF8
  rw [String.fromUTF8?, dif_pos hvalid]
  rfl

/-- A text without carriage returns is the text of the file that it is written to. -/
theorem textOf?_toUTF8 {s : List Char} (h : '\r' ∉ s) :
    textOf? (String.ofList s).toUTF8 = some s := by
  rw [textOf?, fromUTF8?_toUTF8, Option.map_some, String.toList_ofList, unifyBreaks_of_notMem h]

end FolderTag.Files
