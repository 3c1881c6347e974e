import FolderTag.Proofs.Number.Rounding

/-! # Packing doubles

A double is packed into 64 bits and unpacked from them. -/

namespace FolderTag.Number

open Float.Model (Format UnpackedFloat)
open Float.Model.UnpackedFloat

variable {u : UnpackedFloat} {k m : ℕ} {e : ℤ} {s : Sign}

/-! ## Components -/

@[simp]
theorem unpackSign_packComponents (s : Sign) (ex : BitVec 11) (man : BitVec 52) :
    unpackSign (packComponents .binary64 s ex man) = s.toBitVec := by
  change (s.toBitVec ++ ex ++ man).extractLsb' 63 1 = s.toBitVec
  rw [BitVec.extractLsb'_append_eq_of_le (by decide),
    BitVec.extractLsb'_append_eq_of_le (by decide)]
  cases s <;> rfl

@[simp]
theorem ofBitVec_toBitVec (s : Sign) : Sign.ofBitVec s.toBitVec = s := by
  cases s <;> rfl

/-- The mantissa with the digit that is not packed. -/
theorem toNat_implicit (man : BitVec 52) : (1#1 ++ man).toNat = 2 ^ 52 + man.toNat := by
  rw [BitVec.toNat_append, ← Nat.shiftLeft_add_eq_or_of_lt man.isLt]
  rfl

theorem ofParts_pos (hm : 0 < m) (s : Sign) (e : ℤ) : ofParts s m e = .finite s m e hm :=
  dif_neg hm.ne'

/-- What three components are unpacked to. -/
def ofComponents (s : Sign) (ex : BitVec 11) (man : BitVec 52) : UnpackedFloat :=
  if ex = -1#11 then if man = 0#52 then .infinity s else .notANumber
  else if ex = 0#11 then ofParts s man.toNat (-1074)
  else ofParts s (2 ^ 52 + man.toNat) (ex.toNat - 1075)

theorem unpack_eq (b : BitVec 64) :
    unpack .binary64 b = ofComponents (Sign.ofBitVec (@unpackSign .binary64 b))
      (@unpackExponent .binary64 b) (@unpackMantissa .binary64 b) := by
  rw [unpack, ofComponents]
  split
  · rfl
  · split
    · rename_i hzero
      have hplace : ((@unpackExponent .binary64 b).toNat : ℤ) - 1075 + 1 = -1074 := by
        rw [hzero]
        rfl
      split
      · rename_i hman
        rw [hman]
        rfl
      · exact (ofParts_pos _ _ _).symm.trans (congrArg (ofParts _ _) hplace)
    · refine (ofParts_pos _ _ _).symm.trans ?_
      rw [toNat_implicit]
      rfl

theorem unpack_packComponents (s : Sign) (ex : BitVec 11) (man : BitVec 52) :
    unpack .binary64 (packComponents .binary64 s ex man) = ofComponents s ex man := by
  have h := unpack_eq (packComponents .binary64 s ex man)
  simpa using h

/-! ## Signs -/

/-- Whether something is a number with the sign `s`. -/
def HasSign (s : Sign) : UnpackedFloat → Prop
  | .notANumber => False
  | .infinity s' => s' = s
  | .zero s' => s' = s
  | .finite s' _ _ _ => s' = s

theorem hasSign_ofParts (s : Sign) (m : ℕ) (e : ℤ) : HasSign s (ofParts s m e) := by
  rw [ofParts]
  split <;> rfl

theorem hasSign_ofComponents (s : Sign) {ex : BitVec 11} (hex : ex ≠ -1#11) (man : BitVec 52) :
    HasSign s (ofComponents s ex man) := by
  rw [ofComponents, if_neg hex]
  split
  · exact hasSign_ofParts s _ _
  · exact hasSign_ofParts s _ _

theorem unpack_packedInfinity (s : Sign) :
    unpack .binary64 (packedInfinity .binary64 s) = .infinity s :=
  unpack_packComponents s (-1#11) 0#52

theorem unpack_packedZero (s : Sign) : unpack .binary64 (packedZero .binary64 s) = .zero s :=
  unpack_packComponents s 0#11 0#52

theorem ofNat_ne_allOnes {n : ℕ} (hn : n + 1 < 2 ^ 11) : BitVec.ofNat 11 n ≠ -1#11 := by
  intro h
  have htoNat : n % 2 ^ 11 = 2 ^ 11 - 1 := congrArg BitVec.toNat h
  omega

/-- Packing keeps the sign. -/
theorem hasSign_unpack_pack (h : HasSign s u) :
    HasSign s (unpack .binary64 (pack .binary64 u)) := by
  cases u with
  | notANumber => exact h.elim
  | infinity s' =>
      rw [pack, unpack_packedInfinity]
      exact h
  | zero s' =>
      rw [pack, unpack_packedZero]
      exact h
  | finite s' m e hm =>
      obtain rfl : s' = s := h
      rw [pack]
      split
      · rw [unpack_packedInfinity]
        rfl
      · rename_i hfits
        split
        · rw [unpack_packComponents]
          exact hasSign_ofComponents s' (ofNat_ne_allOnes (not_le.1 hfits)) _
        · rw [unpack_packComponents]
          exact hasSign_ofComponents s' (by decide) _

/-! ## Canonical doubles -/

theorem isCanonical_unpack (b : BitVec 64) : IsCanonical (unpack .binary64 b) := by
  rw [unpack_eq, ofComponents]
  split
  · split <;> trivial
  · split
    · exact isCanonical_ofParts _ (by omega) le_rfl (.inr rfl)
    · rename_i hex
      have hpos : (@unpackExponent .binary64 b).toNat ≠ 0 :=
        fun h => hex (BitVec.eq_of_toNat_eq h)
      exact isCanonical_ofParts _ (by omega) (by omega) (.inl (by omega))

theorem pack_finite {hm : 0 < m} (he : e ≤ 971) :
    pack .binary64 (.finite s m e hm) =
      packComponents .binary64 s (if m.log2 = 52 then BitVec.ofNat 11 (e + 1075).toNat else 0#11)
        (BitVec.ofNat 52 m) := by
  have hbiased : e + 1023 + 52 = e + 1075 := by omega
  change (if 2 ^ 11 ≤ (e + 1023 + 52).toNat + 1 then _ else if m.log2 + 1 = 53 then
    packComponents .binary64 s (BitVec.ofNat 11 (e + 1023 + 52).toNat) _ else _) = _
  rw [hbiased, if_neg (by omega)]
  by_cases hlog : m.log2 = 52
  · rw [if_pos (by omega), if_pos hlog]
  · rw [if_neg (by omega), if_neg hlog]

/-- A canonical number whose exponent fits is packed without a loss. -/
theorem unpack_pack_finite {hm : 0 < m} (hc : IsCanonical (.finite s m e hm)) (he : e ≤ 971) :
    unpack .binary64 (pack .binary64 (.finite s m e hm)) = .finite s m e hm := by
  obtain ⟨hless, hlow, hdigits⟩ := hc
  rw [pack_finite he, unpack_packComponents, ofComponents, ← ofParts_pos hm]
  by_cases hlog : m.log2 = 52
  · have hnormal : 2 ^ 52 ≤ m := hlog ▸ Nat.log2_self_le hm.ne'
    have hbiased : (BitVec.ofNat 11 (e + 1075).toNat).toNat = (e + 1075).toNat := by
      rw [BitVec.toNat_ofNat]
      omega
    have hzero : BitVec.ofNat 11 (e + 1075).toNat ≠ 0#11 := by
      intro h
      rw [h] at hbiased
      have : (0#11).toNat = 0 := rfl
      omega
    rw [if_pos hlog, if_neg (ofNat_ne_allOnes (by omega)), if_neg hzero, hbiased,
      BitVec.toNat_ofNat]
    congr 1 <;> omega
  · have hsubnormal : m < 2 ^ 52 := by
      by_contra h
      exact hlog ((Nat.log2_eq_iff hm.ne').2 ⟨not_lt.1 h, hless⟩)
    rw [if_neg hlog, if_neg (by decide), if_pos rfl, BitVec.toNat_ofNat]
    congr 1 <;> omega

theorem HasSign.bounded (h : HasSign .negative u) (k : ℕ) : Bounded k u := by
  cases u with
  | notANumber => exact h
  | infinity s => exact h
  | zero s => trivial
  | finite s m e hm => exact .inl h

/-- Packing keeps a bound. -/
theorem bounded_unpack_pack (hk : k ≤ 64) (hc : IsCanonical u) (h : Bounded k u) :
    Bounded k (unpack .binary64 (pack .binary64 u)) := by
  cases u with
  | notANumber => exact h.elim
  | infinity s => exact (hasSign_unpack_pack (u := .infinity s) h).bounded k
  | zero s =>
      rw [pack, unpack_packedZero]
      trivial
  | finite s m e hm =>
      rcases h with hnegative | hle
      · exact (hasSign_unpack_pack (u := .finite s m e hm) hnegative).bounded k
      · have hone := log2_add_nonpos hm.ne' (hle.trans (div_sixtyFour_le_one hk))
        rw [unpack_pack_finite hc (by omega)]
        exact .inr hle

end FolderTag.Number
