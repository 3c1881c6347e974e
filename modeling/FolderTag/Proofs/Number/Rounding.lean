import Mathlib

/-! # Rounding to doubles

An exact result becomes a double by dropping the binary digits that do not fit and rounding what is
left. The bounds here are counted in sixty-fourths, up to one: these are doubles, and no rounding
passes a double. -/

namespace FolderTag.Number

open Float.Model Float.Model.UnpackedFloat

variable {em : ExtendedMantissa} {d k m n r : ℕ} {e t : ℤ} {s : Sign}

/-! ## Dropping digits -/

theorem shiftRight_succ (em : ExtendedMantissa) (d : ℕ) :
    em >>> (d + 1) = (em >>> d).shiftRightOne := rfl

theorem mantissa_shiftRight (em : ExtendedMantissa) (d : ℕ) :
    (em >>> d).mantissa = em.mantissa / 2 ^ d := by
  induction d with
  | zero => exact (Nat.div_one _).symm
  | succ d ih =>
      rw [shiftRight_succ, ExtendedMantissa.shiftRightOne, ih, Nat.div_div_eq_div_mul, pow_succ]

theorem mantissa_le_roundedMantissa (em : ExtendedMantissa) : em.mantissa ≤ em.roundedMantissa := by
  rcases em with ⟨m, _ | _, _ | _⟩ <;>
    simp [ExtendedMantissa.roundedMantissa, ExtendedMantissa.accuracy, Accuracy.roundToNearestEven]

theorem roundedMantissa_le_succ (em : ExtendedMantissa) :
    em.roundedMantissa ≤ em.mantissa + 1 := by
  rcases em with ⟨m, _ | _, _ | _⟩ <;>
    simp [ExtendedMantissa.roundedMantissa, ExtendedMantissa.accuracy, Accuracy.roundToNearestEven]
  omega

/-- Whether a mantissa is at most `n`, with the digits that were dropped behind it. -/
def IsWithin (n : ℕ) (em : ExtendedMantissa) : Prop := em.mantissa < n ∨ em = ⟨n, false, false⟩

theorem isWithin_exact (h : m ≤ n) : IsWithin n ⟨m, false, false⟩ := by
  rcases h.lt_or_eq with h | rfl
  · exact .inl h
  · exact .inr rfl

theorem IsWithin.roundedMantissa_le (h : IsWithin n em) : em.roundedMantissa ≤ n := by
  rcases h with h | rfl
  · have := roundedMantissa_le_succ em
    omega
  · exact le_rfl

theorem IsWithin.shiftRight (h : IsWithin (2 ^ d * n) em) : IsWithin n (em >>> d) := by
  induction d generalizing n with
  | zero =>
      rw [pow_zero, one_mul] at h
      exact h
  | succ d ih =>
      have htwice : IsWithin (2 * n) (em >>> d) := ih (by rwa [← mul_assoc, ← pow_succ])
      rw [shiftRight_succ]
      rcases htwice with hless | heq
      · left
        exact Nat.div_lt_of_lt_mul hless
      · right
        simp [heq, ExtendedMantissa.shiftRightOne]

/-! ## The digits that are kept -/

/-- The exponent of the last digit that is kept. -/
def lastPlace (m : ℕ) (e : ℤ) : ℤ := Format.binary64.targetExponent (totalExponent m e)

theorem lastPlace_eq (m : ℕ) (e : ℤ) : lastPlace m e = max (m.log2 + e - 52) (-1074) := by
  simp only [lastPlace, Format.targetExponent, totalExponent, Format.mantissaBits,
    Format.minExponent]
  norm_num
  omega

theorem le_lastPlace (m : ℕ) (e : ℤ) : -1074 ≤ lastPlace m e := by
  rw [lastPlace_eq]
  exact le_max_right _ _

/-- The mantissa that is kept, rounded. -/
def kept (m : ℕ) (e : ℤ) : ℕ :=
  ((⟨m, false, false⟩ : ExtendedMantissa) >>> (lastPlace m e - e).toNat).roundedMantissa

theorem shiftToTargetExponent_eq (m : ℕ) (e : ℤ) :
    shiftToTargetExponent .binary64 m e .exact =
      ((⟨m, false, false⟩ : ExtendedMantissa) >>> (lastPlace m e - e).toNat,
        e + (lastPlace m e - e).toNat) := rfl

theorem shiftToTargetExponent_of_lt (hr : r < 2 ^ 53) (ht : -1074 ≤ t) :
    shiftToTargetExponent .binary64 r t .exact = (⟨r, false, false⟩, t) := by
  have hlog : r.log2 ≤ 52 := by
    by_cases hzero : r = 0
    · simp [hzero]
    · have := (Nat.log2_lt hzero).2 hr
      omega
  have hshift : (lastPlace r t - t).toNat = 0 := by
    rw [lastPlace_eq]
    omega
  rw [shiftToTargetExponent_eq, hshift]
  simp only [Nat.cast_zero, add_zero]
  rfl

theorem shiftToTargetExponent_carry (ht : -1074 ≤ t) :
    shiftToTargetExponent .binary64 (2 ^ 53) t .exact = (⟨2 ^ 52, false, false⟩, t + 1) := by
  have hshift : (lastPlace (2 ^ 53) t - t).toNat = 1 := by
    rw [lastPlace_eq, Nat.log2_two_pow]
    omega
  rw [shiftToTargetExponent_eq, hshift]
  rfl

theorem kept_le (m : ℕ) (e : ℤ) : kept m e ≤ 2 ^ 53 := by
  have hround := roundedMantissa_le_succ
    ((⟨m, false, false⟩ : ExtendedMantissa) >>> (lastPlace m e - e).toNat)
  rw [mantissa_shiftRight] at hround
  have hlog : m.log2 + 1 ≤ 53 + (lastPlace m e - e).toNat := by
    rw [lastPlace_eq]
    omega
  have hm : m < 2 ^ 53 * 2 ^ (lastPlace m e - e).toNat := by
    rw [← pow_add]
    exact Nat.lt_log2_self.trans_le (Nat.pow_le_pow_right (by decide) hlog)
  have hdiv := (Nat.div_lt_iff_lt_mul (Nat.two_pow_pos _)).2 hm
  exact hround.trans hdiv

theorem kept_of_not_lt (h : ¬ kept m e < 2 ^ 53) : kept m e = 2 ^ 53 :=
  le_antisymm (kept_le m e) (not_lt.1 h)

theorem le_kept (hm : m ≠ 0) (he : e ≤ lastPlace m e) (hlast : -1074 < lastPlace m e) :
    2 ^ 52 ≤ kept m e := by
  have hround := mantissa_le_roundedMantissa
    ((⟨m, false, false⟩ : ExtendedMantissa) >>> (lastPlace m e - e).toNat)
  rw [mantissa_shiftRight] at hround
  have hlog : 52 + (lastPlace m e - e).toNat = m.log2 := by
    rw [lastPlace_eq] at he hlast ⊢
    omega
  refine le_trans ?_ hround
  rw [Nat.le_div_iff_mul_le (Nat.two_pow_pos _), ← pow_add, hlog]
  exact Nat.log2_self_le hm

/-- The number with a sign, a mantissa and an exponent. -/
def ofParts (s : Sign) (m : ℕ) (e : ℤ) : UnpackedFloat :=
  if h : m = 0 then .zero s else .finite s m e (Nat.pos_of_ne_zero h)

/-- What an exact result becomes: the digits that are kept, with one digit less where rounding them
made one more. -/
theorem roundWithAccuracy_eq (s : Sign) (he : e ≤ lastPlace m e) :
    roundWithAccuracy .binary64 s m e .exact =
      if kept m e < 2 ^ 53 then ofParts s (kept m e) (lastPlace m e)
      else ofParts s (2 ^ 52) (lastPlace m e + 1) := by
  have hplace : (shiftToTargetExponent .binary64 m e .exact).2 = lastPlace m e := by
    change e + (lastPlace m e - e).toNat = _
    omega
  -- Digits are dropped once more behind rounding, which may have carried into a new one.
  have hparts : roundWithAccuracy .binary64 s m e .exact =
      ofParts s (shiftToTargetExponent .binary64 (kept m e)
        (shiftToTargetExponent .binary64 m e .exact).2 .exact).1.mantissa
        (shiftToTargetExponent .binary64 (kept m e)
          (shiftToTargetExponent .binary64 m e .exact).2 .exact).2 := rfl
  rw [hparts, hplace]
  split
  · rename_i hless
    rw [shiftToTargetExponent_of_lt hless (le_lastPlace m e)]
  · rename_i hless
    rw [kept_of_not_lt hless, shiftToTargetExponent_carry (le_lastPlace m e)]

/-! ## Doubles -/

/-- What is unpacked from a double: a mantissa has 53 digits, or fewer at the last place of all. -/
def IsCanonical : UnpackedFloat → Prop
  | .finite _ m e _ => m < 2 ^ 53 ∧ -1074 ≤ e ∧ (2 ^ 52 ≤ m ∨ e = -1074)
  | _ => True

/-- Whether something is a number and at most `k` sixty-fourths. -/
def Bounded (k : ℕ) : UnpackedFloat → Prop
  | .notANumber => False
  | .infinity s => s = .negative
  | .zero _ => True
  | .finite s m e _ => s = .negative ∨ (m : ℚ) * 2 ^ e ≤ k / 64

theorem isCanonical_ofParts (s : Sign) (hm : m < 2 ^ 53) (he : -1074 ≤ e)
    (hdigits : 2 ^ 52 ≤ m ∨ e = -1074) : IsCanonical (ofParts s m e) := by
  rw [ofParts]
  split
  · trivial
  · exact ⟨hm, he, hdigits⟩

theorem bounded_ofParts (h : s = .negative ∨ (m : ℚ) * 2 ^ e ≤ k / 64) :
    Bounded k (ofParts s m e) := by
  rw [ofParts]
  split
  · trivial
  · exact h

theorem isCanonical_roundWithAccuracy (s : Sign) (hm : m ≠ 0) (he : e ≤ lastPlace m e) :
    IsCanonical (roundWithAccuracy .binary64 s m e .exact) := by
  have hlow := le_lastPlace m e
  rw [roundWithAccuracy_eq s he]
  split
  · rename_i hless
    refine isCanonical_ofParts s hless hlow ?_
    by_cases hlast : lastPlace m e = -1074
    · exact .inr hlast
    · exact .inl (le_kept hm he (by omega))
  · exact isCanonical_ofParts s (by decide) (by omega) (.inl le_rfl)

/-- The leading digit of something that is at most one. -/
theorem log2_add_nonpos (hm : m ≠ 0) (h : (m : ℚ) * 2 ^ e ≤ 1) : (m.log2 : ℤ) + e ≤ 0 := by
  have hlog : (2 : ℚ) ^ m.log2 ≤ m := by exact_mod_cast Nat.log2_self_le hm
  have hpow : (2 : ℚ) ^ ((m.log2 : ℤ) + e) ≤ 2 ^ (0 : ℤ) := by
    rw [zpow_add₀ two_ne_zero, zpow_natCast, zpow_zero]
    exact (mul_le_mul_of_nonneg_right hlog (zpow_pos two_pos e).le).trans h
  exact (zpow_le_zpow_iff_right₀ one_lt_two).1 hpow

theorem div_sixtyFour_le_one (hk : k ≤ 64) : (k : ℚ) / 64 ≤ 1 := by
  rw [div_le_one (by norm_num)]
  exact_mod_cast hk

/-- A number of sixty-fourths, counted in smaller parts. -/
theorem exists_parts (k : ℕ) (ht : t ≤ -6) : ∃ n : ℕ, (n : ℚ) * 2 ^ t = k / 64 := by
  obtain ⟨j, hj⟩ : ∃ j : ℕ, (j : ℤ) = -6 - t := ⟨_, Int.toNat_of_nonneg (by omega)⟩
  obtain rfl : t = -6 - j := by omega
  refine ⟨2 ^ j * k, ?_⟩
  rw [zpow_sub₀ two_ne_zero, zpow_natCast]
  push_cast
  field_simp
  norm_num

/-- A bound that an exact result keeps is kept by its digits, as it has no digits that are not
kept. -/
theorem kept_mul_le (hk : k ≤ 64) (hm : m ≠ 0) (he : e ≤ lastPlace m e)
    (h : (m : ℚ) * 2 ^ e ≤ k / 64) : (kept m e : ℚ) * 2 ^ lastPlace m e ≤ k / 64 := by
  have hlast : lastPlace m e ≤ -6 := by
    have := log2_add_nonpos hm (h.trans (div_sixtyFour_le_one hk))
    rw [lastPlace_eq]
    omega
  -- `n` is the bound in the unit of the last place, and `d` digits are dropped.
  obtain ⟨n, hn⟩ := exists_parts k hlast
  obtain ⟨d, hd⟩ : ∃ d : ℕ, (d : ℤ) = lastPlace m e - e := ⟨_, Int.toNat_of_nonneg (by omega)⟩
  have hmantissa : m ≤ 2 ^ d * n := by
    have hexponent : lastPlace m e = d + e := by omega
    rw [← hn, hexponent, zpow_add₀ two_ne_zero, zpow_natCast, ← mul_assoc] at h
    have hscaled := le_of_mul_le_mul_right h (zpow_pos two_pos e)
    rw [mul_comm]
    exact_mod_cast hscaled
  have hkept : kept m e ≤ n := by
    have hshift : (lastPlace m e - e).toNat = d := by omega
    rw [kept, hshift]
    exact (isWithin_exact hmantissa).shiftRight.roundedMantissa_le
  rw [← hn]
  exact mul_le_mul_of_nonneg_right (by exact_mod_cast hkept) (zpow_pos two_pos _).le

/-- No rounding passes a bound. -/
theorem bounded_roundWithAccuracy (hk : k ≤ 64) (hm : m ≠ 0) (he : e ≤ lastPlace m e)
    (h : s = .negative ∨ (m : ℚ) * 2 ^ e ≤ k / 64) :
    Bounded k (roundWithAccuracy .binary64 s m e .exact) := by
  have hkept := h.imp_right (kept_mul_le hk hm he)
  rw [roundWithAccuracy_eq s he]
  split
  · exact bounded_ofParts hkept
  · rename_i hless
    have hsame : ((2 ^ 52 : ℕ) : ℚ) * 2 ^ (lastPlace m e + 1) = kept m e * 2 ^ lastPlace m e := by
      rw [kept_of_not_lt hless, zpow_add₀ two_ne_zero]
      push_cast
      ring
    exact bounded_ofParts (by rwa [hsame])

/-! ## Exact results with digits to spare -/

theorem lastPlace_mul_two_pow (hm : m ≠ 0) (d : ℕ) (e : ℤ) :
    lastPlace (m * 2 ^ d) (e - d) = lastPlace m e := by
  have hlog : (m * 2 ^ d).log2 = m.log2 + d := by
    have hpos := Nat.two_pow_pos d
    refine (Nat.log2_eq_iff (Nat.mul_ne_zero hm hpos.ne')).2 ⟨?_, ?_⟩
    · rw [pow_add]
      exact Nat.mul_le_mul_right _ (Nat.log2_self_le hm)
    · rw [add_right_comm, pow_add]
      exact Nat.mul_lt_mul_of_pos_right Nat.lt_log2_self hpos
  rw [lastPlace_eq, lastPlace_eq, hlog]
  omega

/-- Where digits are missing, zeros are put behind the exact result before it is rounded. -/
theorem exists_round_eq (s : Sign) (hm : m ≠ 0) (e : ℤ) :
    ∃ n t, n ≠ 0 ∧ t ≤ lastPlace n t ∧ (n : ℚ) * 2 ^ t = m * 2 ^ e ∧
      round .binary64 s m e = roundWithAccuracy .binary64 s n t .exact := by
  obtain ⟨d, hd⟩ : ∃ d, (e - lastPlace m e).toNat = d := ⟨_, rfl⟩
  have hround : round .binary64 s m e =
      roundWithAccuracy .binary64 s (m <<< (e - lastPlace m e).toNat)
        (e - (e - lastPlace m e).toNat) .exact := rfl
  rw [hd, Nat.shiftLeft_eq] at hround
  refine ⟨m * 2 ^ d, e - d, Nat.mul_ne_zero hm (Nat.two_pow_pos d).ne', ?_, ?_, hround⟩
  · rw [lastPlace_mul_two_pow hm]
    omega
  · rw [zpow_sub₀ two_ne_zero, zpow_natCast]
    push_cast
    field_simp

theorem isCanonical_round (s : Sign) (hm : m ≠ 0) (e : ℤ) :
    IsCanonical (round .binary64 s m e) := by
  obtain ⟨n, t, hn, ht, -, hround⟩ := exists_round_eq s hm e
  rw [hround]
  exact isCanonical_roundWithAccuracy s hn ht

theorem bounded_round (hk : k ≤ 64) (hm : m ≠ 0) (h : s = .negative ∨ (m : ℚ) * 2 ^ e ≤ k / 64) :
    Bounded k (round .binary64 s m e) := by
  obtain ⟨n, t, hn, ht, hvalue, hround⟩ := exists_round_eq s hm e
  rw [hround]
  exact bounded_roundWithAccuracy hk hn ht (by rwa [hvalue])

variable {z : ℤ}

theorem isCanonical_normalize (z e : ℤ) (s : Sign) :
    IsCanonical (UnpackedFloat.normalize .binary64 z e s) := by
  rw [UnpackedFloat.normalize]
  split
  · rename_i hz
    rw [Int.compare_eq_lt] at hz
    exact isCanonical_round _ (by omega) e
  · trivial
  · rename_i hz
    rw [Int.compare_eq_gt] at hz
    exact isCanonical_round _ (by omega) e

theorem bounded_normalize (hk : k ≤ 64) (h : (z : ℚ) * 2 ^ e ≤ k / 64) (s : Sign) :
    Bounded k (UnpackedFloat.normalize .binary64 z e s) := by
  rw [UnpackedFloat.normalize]
  split
  · rename_i hz
    rw [Int.compare_eq_lt] at hz
    exact bounded_round hk (by omega) (.inl rfl)
  · trivial
  · rename_i hz
    rw [Int.compare_eq_gt] at hz
    refine bounded_round hk (by omega) (.inr ?_)
    have hcast : ((z.toNat : ℤ) : ℚ) = z := congrArg _ (Int.toNat_of_nonneg (by omega))
    rwa [← Int.cast_natCast, hcast]

end FolderTag.Number
