/-! # Replacing words

Replacement of every occurrence of a word, from left to right and without overlaps. -/

namespace FolderTag.Text

/-- Replaces the leftmost occurrences of `old` that do not overlap; the empty word is never
replaced. -/
def replaceAll (old new : List Char) : List Char → List Char
  | [] => []
  | c :: cs =>
      if old ≠ [] ∧ old.isPrefixOf (c :: cs) then new ++ replaceAll old new ((c :: cs).drop old.length)
      else c :: replaceAll old new cs
termination_by s => s.length
decreasing_by
  · rename_i h
    have : 0 < old.length := List.length_pos_iff.2 h.1
    simp only [List.length_drop, List.length_cons]
    omega
  · simp

end FolderTag.Text
