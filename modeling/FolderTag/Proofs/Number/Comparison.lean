import Mathlib

/-! # The order of doubles

Doubles have an order between them, apart from what is not a number: each has a place in a linear
order, and comparing two doubles is comparing their places. The two zeros share a place. -/

namespace FolderTag.Number

open Float.Model

/-- The place of an unpacked double: sign and kind first, then exponent, then mantissa. -/
def unpackedPlace : UnpackedFloat → ℤ ×ₗ ℤ ×ₗ ℤ
  | .infinity .negative => toLex (-2, toLex (0, 0))
  | .finite .negative mantissa exponent _ => toLex (-1, toLex (-exponent, -mantissa))
  | .zero _ => toLex (0, toLex (0, 0))
  | .finite .positive mantissa exponent _ => toLex (1, toLex (exponent, mantissa))
  | .infinity .positive => toLex (2, toLex (0, 0))
  | .notANumber => toLex (3, toLex (0, 0))

/-- The place of a double among all doubles; that of what is not a number says nothing. -/
def place (x : Float) : ℤ ×ₗ ℤ ×ₗ ℤ := unpackedPlace x.toModel.unpack

/-! ## Unpacked doubles -/

theorem compares_then (e₁ e₂ : ℤ) (m₁ m₂ : ℕ) :
    ((compare e₁ e₂).then (compare m₁ m₂)).Compares
      (toLex (e₁, (m₁ : ℤ))) (toLex (e₂, (m₂ : ℤ))) := by
  rcases lt_trichotomy e₁ e₂ with he | rfl | he
  · simp [compare_lt_iff_lt.2 he, Ordering.Compares, Prod.Lex.toLex_lt_toLex, he]
  · rcases lt_trichotomy m₁ m₂ with hm | rfl | hm
    · simp [compare_lt_iff_lt.2 hm, Ordering.Compares, Prod.Lex.toLex_lt_toLex, hm]
    · simp [Ordering.Compares]
    · simp [compare_gt_iff_gt.2 hm, Ordering.Compares, Prod.Lex.toLex_lt_toLex, hm]
  · simp [compare_gt_iff_gt.2 he, Ordering.Compares, Prod.Lex.toLex_lt_toLex, he]

/-- Below zero, the greater magnitude comes first. -/
theorem strictAnti_negative :
    StrictAnti fun p : ℤ ×ₗ ℤ => (toLex (-1, toLex (-(ofLex p).1, -(ofLex p).2)) : ℤ ×ₗ ℤ ×ₗ ℤ) := by
  intro p q h
  simpa [Prod.Lex.toLex_lt_toLex, eq_comm] using Prod.Lex.lt_iff.1 h

theorem strictMono_positive :
    StrictMono fun p : ℤ ×ₗ ℤ => (toLex (1, p) : ℤ ×ₗ ℤ ×ₗ ℤ) := by
  intro p q h
  simpa [Prod.Lex.toLex_lt_toLex] using h

/-- Two unpacked doubles that are numbers compare as their places do. -/
theorem exists_compares {a b : UnpackedFloat} (ha : a.isNaN = false) (hb : b.isNaN = false) :
    ∃ o, a.compare b = some o ∧ o.Compares (unpackedPlace a) (unpackedPlace b) := by
  rcases a with ⟨_ | _⟩ | _ | _ | ⟨_ | _⟩ <;> rcases b with ⟨_ | _⟩ | _ | _ | ⟨_ | _⟩ <;>
    first
      | exact absurd ha (by decide)
      | exact absurd hb (by decide)
      -- two numbers of the same sign: exponents and mantissas decide
      | exact ⟨_, rfl, strictMono_positive.compares.2 (compares_then ..)⟩
      | exact ⟨_, rfl, strictAnti_negative.compares.2 (Ordering.compares_swap.2 (compares_then ..))⟩
      -- otherwise the first parts of the places decide
      | exact ⟨.lt, rfl, Prod.Lex.toLex_lt_toLex.2 (.inl (by simp))⟩
      | exact ⟨.eq, rfl, rfl⟩
      | exact ⟨.gt, rfl, Prod.Lex.toLex_lt_toLex.2 (.inl (by simp))⟩

/-! ## Doubles -/

variable {x y : Float}

section Numbers

variable (hx : x.isNaN = false) (hy : y.isNaN = false)

include hx hy

theorem lt_iff_place_lt : x < y ↔ place x < place y := by
  obtain ⟨o, ho, hplaces⟩ := exists_compares hx hy
  rw [place, place, ← hplaces.eq_lt]
  change decide ((x.toModel.unpack.compare y.toModel.unpack == some .lt) = true) = true ↔ _
  simp [ho]

theorem beq_iff_place_eq : (x == y) = true ↔ place x = place y := by
  obtain ⟨o, ho, hplaces⟩ := exists_compares hx hy
  rw [place, place, ← hplaces.eq_eq]
  change (x.toModel.unpack.compare y.toModel.unpack == some .eq) = true ↔ _
  simp [ho]

end Numbers

/-- What is greater than something is a number. -/
theorem isNaN_right_of_lt (h : x < y) : y.isNaN = false := by
  change decide ((x.toModel.unpack.compare y.toModel.unpack == some .lt) = true) = true at h
  change y.toModel.unpack.isNaN = false
  cases hy : y.toModel.unpack with
  | notANumber => cases hx : x.toModel.unpack <;> simp [hx, hy, UnpackedFloat.compare] at h
  | infinity s => rfl
  | zero s => rfl
  | finite s m e hm => rfl

/-- What is less than something is a number. -/
theorem isNaN_left_of_lt (h : x < y) : x.isNaN = false := by
  change decide ((x.toModel.unpack.compare y.toModel.unpack == some .lt) = true) = true at h
  change x.toModel.unpack.isNaN = false
  cases hx : x.toModel.unpack with
  | notANumber => simp [hx, UnpackedFloat.compare] at h
  | infinity s => rfl
  | zero s => rfl
  | finite s m e hm => rfl

theorem not_lt_of_lt (h : x < y) : ¬ y < x := by
  have hx := isNaN_left_of_lt h
  have hy := isNaN_right_of_lt h
  rw [lt_iff_place_lt hx hy] at h
  rw [lt_iff_place_lt hy hx]
  exact h.asymm

/-- Two numbers neither of which is less than the other are equal. -/
theorem beq_of_not_lt (hx : x.isNaN = false) (hy : y.isNaN = false) (hxy : ¬ x < y)
    (hyx : ¬ y < x) : (x == y) = true := by
  rw [lt_iff_place_lt hx hy] at hxy
  rw [lt_iff_place_lt hy hx] at hyx
  rw [beq_iff_place_eq hx hy]
  exact le_antisymm (not_lt.1 hyx) (not_lt.1 hxy)

end FolderTag.Number
