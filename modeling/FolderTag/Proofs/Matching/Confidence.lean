import FolderTag.Matching.Confidence
import FolderTag.Proofs.Number.Bound

/-! # How confident an inexact pattern can be

A confidence is at most one. A pattern that differs from the text reaches one only by its depth:
with fewer than six slashes it stays below, whatever it covers of the text. -/

namespace FolderTag.Matching

open FolderTag.Number

variable {k : ℕ} {x y : Float} {text pattern : List Char}

/-! ## The smaller and the greater -/

theorem atMost_smaller_one (x : Float) : AtMost 64 (smaller 1.0 x) := by
  rw [smaller]
  split
  · rename_i h
    exact atMost_of_lt_one h
  · exact atMost_one

theorem greater_zero_lt_one (h : x < 1.0) : greater 0.0 x < 1.0 := by
  rw [greater]
  split
  · exact h
  · decide

theorem smaller_one_eq (h : x < 1.0) : smaller 1.0 x = x := if_pos h

/-! ## The parts of a confidence -/

/-- The constants of a confidence. -/
theorem atMost_parts :
    AtMost 32 baseConfidence ∧ IsFactor 7 starPenalty.toModel.unpack ∧
      IsFactor 4 questionPenalty.toModel.unpack ∧ IsFactor 13 lengthBonus.toModel.unpack := by
  decide +kernel

/-- The depth of few slashes. -/
theorem atMost_depth {n : ℕ} (hn : n < 6) : AtMost 17 (Float.ofNat n * depthBonus) := by
  have hall : ∀ n < 6, AtMost 17 (Float.ofNat n * depthBonus) := by decide +kernel
  exact hall n hn

/-- Penalties only take away. -/
theorem atMost_penalized (stars questions : ℕ) :
    AtMost 32 (baseConfidence - Float.ofNat stars * starPenalty -
      Float.ofNat questions * questionPenalty) := by
  obtain ⟨hbase, hstar, hquestion, -⟩ := atMost_parts
  have hstars := (isUnsigned_ofNat stars).mul hstar
  have hquestions := (isUnsigned_ofNat questions).mul hquestion
  exact (hbase.sub hstars (by decide)).sub hquestions (by decide)

theorem atMost_covered (text pattern : List Char) :
    AtMost 13 (coverage text pattern * lengthBonus) :=
  (atMost_smaller_one _).mul atMost_parts.2.2.2 (by decide) (by decide)

/-- With fewer than six slashes, the parts of a confidence add up to less than one. -/
theorem rawConfidence_lt_one (hdepth : pattern.count '/' < 6) :
    rawConfidence text pattern < 1.0 := by
  have hpenalized := atMost_penalized (pattern.count '*') (pattern.count '?')
  have hcovered := hpenalized.add (atMost_covered text pattern) (by decide)
  have hslashes := atMost_depth hdepth
  rw [rawConfidence]
  split
  · exact (hpenalized.add hslashes (by decide)).lt_one (by decide)
  · exact (hcovered.add hslashes (by decide)).lt_one (by decide)

/-! ## Confidence -/

variable {text pattern : String}

theorem confidence_self (text : String) : confidence text text = 1.0 := if_pos rfl

/-- No confidence is higher than that of an exact pattern. -/
theorem not_one_lt_confidence (text pattern : String) : ¬ 1.0 < confidence text pattern := by
  have hone : ¬ (1.0 : Float) < 1.0 := by decide
  rw [confidence]
  split
  · exact hone
  · rw [greater]
    split
    · rw [smaller]
      split
      · rename_i h
        exact not_lt_of_lt h
      · exact hone
    · decide

/-- A pattern that differs from the text needs six slashes to be certain. -/
theorem confidence_lt_one (hne : pattern ≠ text) (hdepth : pattern.toList.count '/' < 6) :
    confidence text pattern < 1.0 := by
  have hraw : rawConfidence text.toList pattern.toList < 1.0 := rawConfidence_lt_one hdepth
  rw [confidence, if_neg hne, smaller_one_eq hraw]
  exact greater_zero_lt_one hraw

end FolderTag.Matching
