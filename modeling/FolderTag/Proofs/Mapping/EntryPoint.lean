import FolderTag.Mapping.EntryPoint

/-! # Entry points and marks are taken off again

Removing an entry point undoes putting it before a path, and so it is with the mark of a tag, also
where the entry point has a mark of its own. -/

namespace FolderTag.Mapping

/-- A path that lies under an entry point, and what is left of it there. -/
inductive LiesUnder (entry : List Char) : (path rest : List Char) → Prop
  | free (path : List Char) (h : entry = []) : LiesUnder entry path path
  | itself (h : entry ≠ []) : LiesUnder entry entry []
  | below (rest : List Char) (h : entry ≠ []) (hne : rest ≠ []) :
      LiesUnder entry (entry ++ '/' :: rest) rest

variable {entry path rest : List Char}

theorem liesUnder_iff : LiesUnder entry path rest ↔ joinEntry entry rest = path := by
  constructor
  · rintro (⟨_, h⟩ | h | ⟨_, h, hne⟩)
    · simp [joinEntry, h]
    · simp [joinEntry]
    · simp [joinEntry, h, hne]
  · rintro rfl
    by_cases h : entry = []
    · subst h
      exact .free _ rfl
    · by_cases hne : rest = []
      · subst hne
        simpa [joinEntry, h] using LiesUnder.itself h
      · simpa [joinEntry, h, hne] using LiesUnder.below rest h hne

theorem behind?_append (beginning s : List Char) : behind? beginning (beginning ++ s) = some s := by
  induction beginning with
  | nil => rfl
  | cons b bs ih => simpa [behind?] using ih

/-- Removing an entry point undoes putting it before a path. -/
@[simp] theorem stripEntry_joinEntry (entry s : List Char) :
    stripEntry entry (joinEntry entry s) = s := by
  by_cases h : entry = []
  · simp [stripEntry, joinEntry, h]
  · by_cases hs : s = []
    · simp [stripEntry, joinEntry, h, hs]
    · have hbehind : behind? (entry ++ ['/']) (entry ++ '/' :: s) = some s := by
        simpa using behind?_append (entry ++ ['/']) s
      simp [stripEntry, joinEntry, h, hs, hbehind]

theorem joinEntry_eq_nil_iff : joinEntry entry rest = [] ↔ entry = [] ∧ rest = [] := by
  rw [joinEntry]
  cases entry <;> cases rest <;> simp

/-- A mark in front of the entry point stays in front. -/
theorem joinEntry_hash (h : entry ≠ []) (s : List Char) :
    joinEntry ('#' :: entry) s = '#' :: joinEntry entry s := by
  cases s <;> simp [joinEntry, h]

theorem stripHash_withHash (s : List Char) : stripHash (withHash s) = stripHash s := by
  rw [withHash]
  split
  · rfl
  · rename_i h
    rw [stripHash, stripHash]
    rintro t rfl
    exact h rfl

theorem stripHash_of_head (h : rest.head? ≠ some '#') : stripHash rest = rest := by
  rw [stripHash]
  rintro s rfl
  exact h rfl

theorem head?_withHash (s : List Char) : (withHash s).head? = some '#' := by
  rw [withHash]
  split
  · assumption
  · rfl

/-- Taking the marks and the entry point off a tag undoes putting them on. The mark alone is no
entry point, and without an entry point a text does not begin with a mark of its own. -/
theorem stripEntry_of_tag {s : List Char} (hentry : entry ≠ ['#'])
    (hs : entry = [] → s.head? ≠ some '#') :
    stripEntry (stripHash entry) (stripHash (withHash (joinEntry entry s))) = s := by
  rw [stripHash_withHash]
  cases entry with
  | nil =>
      have hs := stripHash_of_head (hs rfl)
      simpa [joinEntry, stripEntry, stripHash] using hs
  | cons c entry =>
      by_cases hc : c = '#'
      · have hne : entry ≠ [] := by
          rintro rfl
          exact hentry (by rw [hc])
        rw [hc, joinEntry_hash hne, stripHash, stripHash, stripEntry_joinEntry]
      · have hhead : (joinEntry (c :: entry) s).head? ≠ some '#' := by
          cases s <;> simpa [joinEntry] using hc
        rw [stripHash_of_head hhead, stripHash_of_head (by simpa using hc), stripEntry_joinEntry]

end FolderTag.Mapping
