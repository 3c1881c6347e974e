import FolderTag.Proofs.Number.Comparison
import FolderTag.Proofs.Number.Packing

/-! # Bounds of computed doubles

Bounds are added and multiplied with the doubles that they bound. -/

namespace FolderTag.Number

open Float.Model (Format UnpackedFloat)
open Float.Model.UnpackedFloat

variable {u v : UnpackedFloat} {j k l m n : ℕ} {e t : ℤ} {s : Sign}

/-! ## Unpacked doubles -/

theorem Bounded.mono (h : Bounded j u) (hjk : j ≤ k) : Bounded k u := by
  cases u with
  | notANumber => exact h
  | infinity s => exact h
  | zero s => trivial
  | finite s m e hm =>
      refine h.imp_right fun hle => hle.trans ?_
      have hcast : (j : ℚ) ≤ k := by exact_mod_cast hjk
      linarith

theorem positive_ne_negative : Sign.positive ≠ .negative := by
  intro h
  cases h

theorem Bounded.value_le {hm : 0 < m} (h : Bounded k (.finite s m e hm)) :
    ((s.apply m : ℤ) : ℚ) * 2 ^ e ≤ k / 64 := by
  have hpos : (0 : ℚ) ≤ m * 2 ^ e := by positivity
  have hk : (0 : ℚ) ≤ k / 64 := by positivity
  cases s with
  | negative =>
      rw [Sign.apply]
      push_cast
      linarith
  | positive =>
      rw [Sign.apply]
      have hle := h.resolve_left positive_ne_negative
      exact_mod_cast hle

/-- Decreasing an exponent keeps the value. -/
theorem value_decreaseExponent (s : Sign) (m : ℕ) (ht : t ≤ e) :
    ((s.apply (decreaseExponent m e t).1 : ℤ) : ℚ) * 2 ^ t = (s.apply m : ℤ) * 2 ^ e := by
  obtain ⟨d, hd⟩ : ∃ d : ℕ, (d : ℤ) = e - t := ⟨_, Int.toNat_of_nonneg (by omega)⟩
  have hshift : (decreaseExponent m e t).1 = m * 2 ^ d := by
    change m <<< (e - t).toNat = _
    rw [← hd, Int.toNat_natCast, Nat.shiftLeft_eq]
  have hexponent : e = d + t := by omega
  rw [hshift, hexponent, zpow_add₀ two_ne_zero, zpow_natCast]
  cases s <;> simp only [Sign.apply] <;> push_cast <;> ring

theorem isCanonical_add (hu : IsCanonical u) (hv : IsCanonical v) :
    IsCanonical (add .binary64 u v) := by
  cases u with
  | notANumber => trivial
  | infinity s =>
      cases v with
      | infinity s' =>
          rw [add]
          split <;> trivial
      | _ => trivial
  | zero s =>
      cases v with
      | zero s' =>
          rw [add]
          split <;> trivial
      | finite => exact hv
      | _ => trivial
  | finite s m e hm =>
      cases v with
      | zero s' => exact hu
      | finite s' n t hn => exact isCanonical_normalize _ _ _
      | _ => trivial

theorem bounded_add (hu : Bounded j u) (hv : Bounded k v) (hjk : j + k ≤ 64) :
    Bounded (j + k) (add .binary64 u v) := by
  cases u with
  | notANumber => exact hu.elim
  | infinity s =>
      obtain rfl : s = .negative := hu
      cases v with
      | notANumber => exact hv.elim
      | infinity s' =>
          obtain rfl : s' = .negative := hv
          rfl
      | _ => rfl
  | zero s =>
      cases v with
      | notANumber => exact hv.elim
      | infinity s' => exact hv
      | zero s' =>
          rw [add]
          split <;> trivial
      | finite => exact hv.mono (Nat.le_add_left k j)
  | finite s m e hm =>
      cases v with
      | notANumber => exact hv.elim
      | infinity s' => exact hv
      | zero s' => exact hu.mono (Nat.le_add_right j k)
      | finite s' n t hn =>
          refine bounded_normalize hjk ?_ _
          have hsum := add_le_add hu.value_le hv.value_le
          rw [← value_decreaseExponent s m (min_le_left e t),
            ← value_decreaseExponent s' n (min_le_right e t), ← add_mul] at hsum
          push_cast
          exact hsum.trans_eq (by ring)

theorem sub_apply (s : Sign) (x z : ℤ) : x - s.apply z = x + (-s).apply z := by
  cases s with
  | negative => exact sub_neg_eq_add x z
  | positive => exact sub_eq_add_neg x z

theorem sub_eq_add (u v : UnpackedFloat) : sub .binary64 u v = add .binary64 u v.neg := by
  cases u with
  | finite s m e hm =>
      cases v with
      | finite s' n t hn =>
          exact congrArg (UnpackedFloat.normalize .binary64 · (min e t) .positive)
            (sub_apply s' _ _)
      | _ => rfl
  | _ => cases v <;> rfl

theorem isCanonical_neg (hu : IsCanonical u) : IsCanonical u.neg := by
  cases u <;> exact hu

theorem HasSign.neg (hu : HasSign .positive u) : HasSign .negative u.neg := by
  cases u with
  | notANumber => exact hu
  | _ =>
      obtain rfl := hu
      rfl

theorem isCanonical_sub (hu : IsCanonical u) (hv : IsCanonical v) :
    IsCanonical (sub .binary64 u v) := by
  rw [sub_eq_add]
  exact isCanonical_add hu (isCanonical_neg hv)

theorem bounded_sub (hk : k ≤ 64) (hu : Bounded k u) (hv : HasSign .positive v) :
    Bounded k (sub .binary64 u v) := by
  have hsum := bounded_add hu (hv.neg.bounded 0) hk
  rwa [sub_eq_add]

/-- Whether something is positive and at most `k` sixty-fourths, with all digits of a double. -/
def IsFactor (k : ℕ) : UnpackedFloat → Prop
  | .finite s m e _ => s = .positive ∧ 2 ^ 52 ≤ m ∧ (m : ℚ) * 2 ^ e ≤ k / 64
  | _ => False

/-- A factor with all digits leaves digits to drop in every product. -/
theorem le_lastPlace_mul (hm : 0 < m) (hn : 2 ^ 52 ≤ n) (e : ℤ) : e ≤ lastPlace (m * n) e := by
  have hmul : 2 ^ 52 ≤ m * n := hn.trans (Nat.le_mul_of_pos_left n hm)
  have hlog : 52 ≤ (m * n).log2 := (Nat.le_log2 (by omega)).2 hmul
  rw [lastPlace_eq]
  omega

theorem isCanonical_mul (hv : IsFactor k v) (u : UnpackedFloat) :
    IsCanonical (mul .binary64 u v) := by
  cases v with
  | finite s' n t hn =>
      obtain ⟨rfl, hdigits, -⟩ := hv
      cases u with
      | finite s m e hm =>
          exact isCanonical_roundWithAccuracy _ (Nat.mul_pos hm hn).ne'
            (le_lastPlace_mul hm hdigits _)
      | notANumber => exact True.intro
      | infinity s => exact True.intro
      | zero s => exact True.intro
  | _ => exact hv.elim

theorem bounded_mul (hl : l ≤ 64) (hjk : j * k ≤ 64 * l) (hu : Bounded j u) (hv : IsFactor k v) :
    Bounded l (mul .binary64 u v) := by
  cases v with
  | finite s' n t hn =>
      obtain ⟨rfl, hdigits, hvalue⟩ := hv
      cases u with
      | notANumber => exact hu.elim
      | infinity s =>
          obtain rfl : s = .negative := hu
          rfl
      | zero s => exact True.intro
      | finite s m e hm =>
          refine bounded_roundWithAccuracy hl (Nat.mul_pos hm hn).ne'
            (le_lastPlace_mul hm hdigits _) ?_
          rcases hu with rfl | hle
          · exact .inl rfl
          · right
            have hpos : (0 : ℚ) ≤ n * 2 ^ t := by positivity
            have hcast : (j : ℚ) * k ≤ 64 * l := by exact_mod_cast hjk
            calc
              ((m * n : ℕ) : ℚ) * 2 ^ (e + t) = (m * 2 ^ e) * (n * 2 ^ t) := by
                rw [zpow_add₀ two_ne_zero]
                push_cast
                ring
              _ ≤ j / 64 * (k / 64) := mul_le_mul hle hvalue hpos (by positivity)
              _ ≤ l / 64 := by linarith
  | _ => exact hv.elim

theorem hasSign_mul_positive {hm : 0 < m} {hn : 0 < n} :
    HasSign .positive
      (mul .binary64 (.finite .positive m e hm) (.finite .positive n t hn)) :=
  hasSign_ofParts _ _ _

theorem hasSign_mul (hu : HasSign s u) (hv : IsFactor k v) : HasSign s (mul .binary64 u v) := by
  cases v with
  | finite s' n t hn =>
      obtain ⟨rfl, -, -⟩ := hv
      have hs : s * Sign.positive = s := by cases s <;> rfl
      cases u with
      | notANumber => exact hu.elim
      | infinity s =>
          obtain rfl := hu
          exact hs
      | zero s =>
          obtain rfl := hu
          exact hs
      | finite s m e hm =>
          obtain rfl := hu
          rw [mul, hs]
          exact hasSign_ofParts _ _ _
  | _ => exact hv.elim

theorem hasSign_normalize (n : ℕ) (e : ℤ) :
    HasSign .positive (UnpackedFloat.normalize .binary64 n e .positive) := by
  rw [UnpackedFloat.normalize]
  split
  · rename_i hn
    rw [Int.compare_eq_lt] at hn
    omega
  · rfl
  · exact hasSign_ofParts _ _ _

instance (k : ℕ) (u : UnpackedFloat) : Decidable (Bounded k u) :=
  match u with
  | .notANumber => isFalse id
  | .infinity .negative => isTrue rfl
  | .infinity .positive => isFalse positive_ne_negative
  | .zero _ => isTrue True.intro
  | .finite .negative _ _ _ => isTrue (.inl rfl)
  | .finite .positive m e _ => decidable_of_iff ((m : ℚ) * 2 ^ e ≤ k / 64) (by simp [Bounded])

instance (k : ℕ) (u : UnpackedFloat) : Decidable (IsFactor k u) :=
  match u with
  | .notANumber => isFalse id
  | .infinity _ => isFalse id
  | .zero _ => isFalse id
  | .finite .negative _ _ _ => isFalse fun h => positive_ne_negative h.1.symm
  | .finite .positive m e _ =>
      decidable_of_iff (2 ^ 52 ≤ m ∧ (m : ℚ) * 2 ^ e ≤ k / 64) (by simp [IsFactor])

/-! ## Doubles -/

variable {x y : Float}

/-- Whether a double is a number and at most `k` sixty-fourths. -/
def AtMost (k : ℕ) (x : Float) : Prop := Bounded k x.toModel.unpack

instance (k : ℕ) (x : Float) : Decidable (AtMost k x) :=
  inferInstanceAs (Decidable (Bounded k x.toModel.unpack))

/-- Whether a double is a number without a minus sign. -/
def IsUnsigned (x : Float) : Prop := HasSign .positive x.toModel.unpack

theorem AtMost.add (hx : AtMost j x) (hy : AtMost k y) (hjk : j + k ≤ 64) :
    AtMost (j + k) (x + y) :=
  bounded_unpack_pack hjk (isCanonical_add (isCanonical_unpack _) (isCanonical_unpack _))
    (bounded_add hx hy hjk)

theorem AtMost.sub (hx : AtMost k x) (hy : IsUnsigned y) (hk : k ≤ 64) : AtMost k (x - y) :=
  bounded_unpack_pack hk (isCanonical_sub (isCanonical_unpack _) (isCanonical_unpack _))
    (bounded_sub hk hx hy)

theorem AtMost.mul (hx : AtMost j x) (hy : IsFactor k y.toModel.unpack) (hl : l ≤ 64)
    (hjk : j * k ≤ 64 * l) : AtMost l (x * y) :=
  bounded_unpack_pack hl (isCanonical_mul hy _) (bounded_mul hl hjk hx hy)

theorem IsUnsigned.mul (hx : IsUnsigned x) (hy : IsFactor k y.toModel.unpack) :
    IsUnsigned (x * y) :=
  hasSign_unpack_pack (hasSign_mul hx hy)

theorem isUnsigned_ofNat (n : ℕ) : IsUnsigned (Float.ofNat n) := by
  rw [Float.ofNat]
  change IsUnsigned (Float.ofScientific n false 0)
  rw [Float.ofScientific]
  split
  · have hn : IsUnsigned n.toUInt64.toFloat := hasSign_unpack_pack (hasSign_normalize _ 0)
    have hone : IsFactor 64 (Float.ofBits 0x3FF0000000000000).toModel.unpack := by
      change IsFactor 64 (.finite .positive (2 ^ 52) (-52) (by decide))
      exact ⟨rfl, le_rfl, by norm_num⟩
    exact hn.mul hone
  · apply hasSign_unpack_pack
    change HasSign .positive (ofScientific .binary64 n 0)
    rw [ofScientific]
    split
    · rfl
    · have hlarge : (0 : ℤ) < 2 ^ Format.exponentBits .binary64 := by decide
      rw [if_neg (by omega), if_neg (by omega), if_pos le_rfl]
      exact hasSign_mul_positive

/-! ## Bounds and one -/

theorem unpack_one :
    (1.0 : Float).toModel.unpack = .finite .positive (2 ^ 52) (-52) (by decide) := rfl

theorem isNaN_one : (1.0 : Float).isNaN = false := rfl

theorem place_one : place 1.0 = toLex (1, toLex (-52, 2 ^ 52)) := rfl

theorem atMost_one : AtMost 64 1.0 := by
  rw [AtMost, unpack_one]
  right
  norm_num

theorem isCanonical_toModel (x : Float) : IsCanonical x.toModel.unpack :=
  isCanonical_unpack x.toModel.toBits.toBitVec

theorem AtMost.isNaN (hx : AtMost k x) : x.isNaN = false := by
  change x.toModel.unpack.isNaN = false
  rw [AtMost] at hx
  cases hu : x.toModel.unpack with
  | notANumber =>
      rw [hu] at hx
      exact hx.elim
  | _ => rfl

/-- Below one, the place of a canonical number comes before that of one. -/
theorem lt_one_iff {hm : 0 < m} (hc : IsCanonical (.finite s m e hm)) :
    e < -52 ∨ e = -52 ∧ m < 2 ^ 52 ↔ (m : ℚ) * 2 ^ e < 1 := by
  obtain ⟨hless, -, hdigits⟩ := hc
  constructor
  · rintro (hplace | ⟨rfl, hmantissa⟩)
    · have hcast : (m : ℚ) < 2 ^ 53 := by exact_mod_cast hless
      have hpow : (2 : ℚ) ^ e ≤ 2 ^ (-53 : ℤ) := zpow_le_zpow_right₀ one_le_two (by omega)
      calc
        (m : ℚ) * 2 ^ e ≤ m * 2 ^ (-53 : ℤ) := mul_le_mul_of_nonneg_left hpow (by positivity)
        _ < 2 ^ 53 * 2 ^ (-53 : ℤ) := mul_lt_mul_of_pos_right hcast (by positivity)
        _ = 1 := by norm_num
    · have hcast : (m : ℚ) < 2 ^ 52 := by exact_mod_cast hmantissa
      calc
        (m : ℚ) * 2 ^ (-52 : ℤ) < 2 ^ 52 * 2 ^ (-52 : ℤ) :=
          mul_lt_mul_of_pos_right hcast (by positivity)
        _ = 1 := by norm_num
  · intro hvalue
    by_contra hplace
    have hlarge : 2 ^ 52 ≤ m ∧ -52 ≤ e := by omega
    have hcast : (2 : ℚ) ^ 52 ≤ m := by exact_mod_cast hlarge.1
    have hpow : (2 : ℚ) ^ (-52 : ℤ) ≤ 2 ^ e := zpow_le_zpow_right₀ one_le_two hlarge.2
    have hone : (1 : ℚ) ≤ m * 2 ^ e := by
      calc
        (1 : ℚ) = 2 ^ 52 * 2 ^ (-52 : ℤ) := by norm_num
        _ ≤ m * 2 ^ e := mul_le_mul hcast hpow (by positivity) (by positivity)
    exact hvalue.not_ge hone

theorem AtMost.lt_one (hx : AtMost k x) (hk : k < 64) : x < 1.0 := by
  have hcanonical := isCanonical_toModel x
  rw [lt_iff_place_lt hx.isNaN isNaN_one, place_one, place]
  rw [AtMost] at hx
  generalize x.toModel.unpack = u at hcanonical hx ⊢
  cases u with
  | notANumber => exact hx.elim
  | infinity s =>
      obtain rfl : s = .negative := hx
      simp [unpackedPlace, Prod.Lex.toLex_lt_toLex]
  | zero s => simp [unpackedPlace, Prod.Lex.toLex_lt_toLex]
  | finite s m e hm =>
      cases s with
      | negative => simp [unpackedPlace, Prod.Lex.toLex_lt_toLex]
      | positive =>
          have hlt : (k : ℚ) / 64 < 1 := by
            rw [div_lt_one (by norm_num)]
            exact_mod_cast hk
          have hvalue : (m : ℚ) * 2 ^ e ≤ k / 64 := hx.resolve_left positive_ne_negative
          have hplace := (lt_one_iff hcanonical).2 (hvalue.trans_lt hlt)
          simp only [unpackedPlace, Prod.Lex.toLex_lt_toLex, lt_irrefl, false_or, true_and]
          exact_mod_cast hplace

theorem atMost_of_lt_one (h : x < 1.0) : AtMost 64 x := by
  have hcanonical := isCanonical_toModel x
  have hnumber := isNaN_left_of_lt h
  rw [lt_iff_place_lt hnumber isNaN_one, place_one, place] at h
  change x.toModel.unpack.isNaN = false at hnumber
  rw [AtMost]
  generalize x.toModel.unpack = u at hcanonical hnumber h ⊢
  cases u with
  | notANumber => cases hnumber
  | infinity s =>
      cases s with
      | negative => rfl
      | positive => simp [unpackedPlace, Prod.Lex.toLex_lt_toLex] at h
  | zero s => exact True.intro
  | finite s m e hm =>
      cases s with
      | negative => exact .inl rfl
      | positive =>
          simp only [unpackedPlace, Prod.Lex.toLex_lt_toLex, lt_irrefl, false_or, true_and] at h
          have hvalue := (lt_one_iff hcanonical).1 (by exact_mod_cast h)
          right
          norm_num
          exact hvalue.le

end FolderTag.Number
