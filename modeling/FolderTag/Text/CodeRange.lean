/-! # Ranges of code points

A character property is an ascending list of disjoint ranges. Looking a code point up stops at the
first range that starts beyond it. -/

namespace FolderTag.Text

/-- The code points from `first` to `last`, both included. -/
structure CodeRange where
  first : Nat
  last : Nat
deriving Repr, DecidableEq

namespace CodeRange

/-- Membership in an ascending list of ranges. -/
def covers : List CodeRange → Nat → Bool
  | [], _ => false
  | r :: rs, n => if n < r.first then false else if n ≤ r.last then true else covers rs n

/-- A covered code point lies in one of the ranges. -/
theorem exists_of_covers {rs : List CodeRange} {n : Nat} (h : covers rs n = true) :
    ∃ r ∈ rs, r.first ≤ n ∧ n ≤ r.last := by
  induction rs with
  | nil => simp [covers] at h
  | cons r rs ih =>
      simp only [covers] at h
      split at h
      · simp at h
      · split at h
        · exact ⟨r, by simp, by omega, by omega⟩
        · obtain ⟨s, hs, hn⟩ := ih h
          exact ⟨s, by simp [hs], hn⟩

end CodeRange

end FolderTag.Text
