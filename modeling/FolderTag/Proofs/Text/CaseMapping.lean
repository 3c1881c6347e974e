import FolderTag.Text.Blank
import FolderTag.Text.Case
import FolderTag.Text.Class
import Mathlib.Data.List.Basic

/-! # What the case mappings keep

The image of a code point is its own image, because no run and no sequence moves what another one
has made. Code points without case are neither moved nor made. -/

namespace FolderTag.Text

namespace CodeRange

/-- Whether a code point lies outside a range. -/
def isOutside (b : CodeRange) (n : Nat) : Bool := n.blt b.first || b.last.blt n

/-- Whether all code points of an ascending list lie outside a range. -/
def isClearOf (b : CodeRange) : List Nat → Bool
  | [] => true
  | n :: ns => b.last.blt n || (n.blt b.first && b.isClearOf ns)

/-- Whether two ranges have no code point in common. -/
def isApart (a b : CodeRange) : Bool := a.last.blt b.first || b.last.blt a.first

variable {a b : CodeRange} {n : Nat} {ns : List Nat}

theorem isOutside_iff : b.isOutside n = true ↔ n < b.first ∨ b.last < n := by
  rw [isOutside, Bool.or_eq_true, Nat.blt_eq, Nat.blt_eq]

theorem isApart_iff : a.isApart b = true ↔ a.last < b.first ∨ b.last < a.first := by
  rw [isApart, Bool.or_eq_true, Nat.blt_eq, Nat.blt_eq]

theorem notMem_of_isClearOf (h : b.isClearOf ns = true) (hascending : ns.Pairwise (· < ·))
    (hfirst : b.first ≤ n) (hlast : n ≤ b.last) : n ∉ ns := by
  induction hascending with
  | nil => exact List.not_mem_nil
  | cons hbehind _ ih =>
      rw [isClearOf, Bool.or_eq_true, Bool.and_eq_true, Nat.blt_eq, Nat.blt_eq] at h
      rw [List.mem_cons, not_or]
      obtain hbeyond | ⟨hbefore, hclear⟩ := h
      · refine ⟨by omega, fun hmem => ?_⟩
        have := hbehind n hmem
        omega
      · exact ⟨by omega, ih hclear⟩

end CodeRange

namespace CaseRun

variable {r : CaseRun} {rs : List CaseRun} {b : CodeRange} {n m step : Nat}

/-- Where the code points of a run are moved to. -/
def landing (r : CaseRun) : CodeRange := ⟨(r.first + r.shift).toNat, (r.last + r.shift).toNat⟩

/-- Whether an ascending list of runs moves no code point of `b` that is a multiple of `step` away
from the first one. Of runs whose code points are two apart every second one may be passed. -/
def spares (b : CodeRange) (step : Nat) : List CaseRun → Bool
  | [] => true
  | s :: rest =>
      b.last.blt s.first ||
        ((s.last.blt b.first ||
            (b.first.beq b.last || step.beq 2) && s.step.beq 2 &&
              Nat.beq ((b.first + s.first) % 2) 1) &&
          spares b step rest)

theorem image?_eq_some (h : r.image? n = some m) :
    r.first ≤ n ∧ n ≤ r.last ∧ (n - r.first) % r.step = 0 ∧ m = (n + r.shift).toNat := by
  rw [image?] at h
  split_ifs at h with hn
  exact ⟨hn.1, hn.2.1, hn.2.2, (Option.some.inj h).symm⟩

/-- An image is made by one of the runs, or the code point stays. -/
theorem image_eq_or (rs : List CaseRun) (n : Nat) :
    image rs n = n ∨ ∃ r ∈ rs, r.image? n = some (image rs n) := by
  induction rs with
  | nil => exact .inl rfl
  | cons r rs ih =>
      rw [image]
      split_ifs with hn
      · exact .inl rfl
      · cases hr : r.image? n with
        | some m => exact .inr ⟨r, List.mem_cons_self, hr⟩
        | none => exact ih.imp_right fun ⟨s, hs, h⟩ => ⟨s, List.mem_cons_of_mem r hs, h⟩

theorem mem_landing (h : r.image? n = some m) (hnonneg : 0 ≤ r.first + r.shift) :
    r.landing.first ≤ m ∧ m ≤ r.landing.last ∧
      (r.landing.first = r.landing.last ∨ r.step = 2 → (m + r.landing.first) % 2 = 0) := by
  obtain ⟨hfirst, hlast, hstep, rfl⟩ := image?_eq_some h
  simp only [landing]
  refine ⟨by omega, by omega, ?_⟩
  rintro (hone | htwo)
  · omega
  · rw [htwo] at hstep
    omega

/-- Code points that are spared stay. -/
theorem image_of_spares (h : spares b step rs = true) (hfirst : b.first ≤ m) (hlast : m ≤ b.last)
    (hstep : b.first = b.last ∨ step = 2 → (m + b.first) % 2 = 0) : image rs m = m := by
  induction rs with
  | nil => rfl
  | cons s rs ih =>
      rw [image]
      by_cases hm : m < s.first
      · rw [if_pos hm]
      · simp only [spares, Bool.or_eq_true, Bool.and_eq_true, Nat.blt_eq, Nat.beq_eq] at h
        replace h := h.resolve_left (by omega)
        have hnone : s.image? m = none := by
          rw [image?, if_neg]
          rintro ⟨hlow, hhigh, hs⟩
          obtain hover | ⟨⟨hone, htwo⟩, hodd⟩ := h.1
          · omega
          · rw [htwo] at hs
            have heven := hstep hone
            omega
        rw [if_neg hm, hnone]
        exact ih h.2

end CaseRun

/-! ## Images of images -/

/-- Code points without case: the ASCII characters but letters and NUL, white space, the variation
selectors, and the blocks of symbols that emoji belong to. -/
def uncasedRanges : List CodeRange := [
  ⟨0x1, 0x40⟩, ⟨0x5b, 0x60⟩, ⟨0x7b, 0xa0⟩, ⟨0x1680, 0x1680⟩, ⟨0x2000, 0x205f⟩, ⟨0x2600, 0x2bff⟩,
  ⟨0x3000, 0x3000⟩, ⟨0xfe00, 0xfe0f⟩, ⟨0x1f000, 0x1faff⟩]

/-- The image of a code point under the characters that become several and the runs. -/
def imageOf (seqs : List (Nat × List Nat)) (rs : List CaseRun) (n : Nat) : List Nat :=
  match seqs.lookup n with
  | some ns => ns
  | none => [CaseRun.image rs n]

/-- Whether the tables of a case conversion move no code point of `b` that is a multiple of `step`
away from the first one. -/
def tablesSpare (seqs : List (Nat × List Nat)) (rs : List CaseRun) (b : CodeRange) (step : Nat) :
    Bool :=
  CaseRun.spares b step rs && b.isClearOf (seqs.map Prod.fst)

/-- Tables of a case conversion that move nothing which they have made, and that neither move nor
make a code point without case. -/
structure AreSettled (seqs : List (Nat × List Nat)) (rs : List CaseRun) : Prop where
  zero : imageOf seqs rs 0 = [0]
  nonneg : ∀ r ∈ rs, 0 ≤ r.first + r.shift
  ascending : (seqs.map Prod.fst).IsChain (· < ·)
  runs : ∀ r ∈ rs, tablesSpare seqs rs r.landing r.step = true
  sequences : ∀ s ∈ seqs, s.2 ≠ [] ∧ ∀ m ∈ s.2, tablesSpare seqs rs ⟨m, m⟩ 1 = true
  uncased : ∀ b ∈ uncasedRanges, tablesSpare seqs rs b 1 = true
  uncased_runs : ∀ b ∈ uncasedRanges, ∀ r ∈ rs, b.isApart r.landing = true
  uncased_sequences : ∀ b ∈ uncasedRanges, ∀ s ∈ seqs, ∀ m ∈ s.2, b.isOutside m = true

theorem areSettled_lower : AreSettled lowerSequences lowerRuns where
  zero := rfl
  nonneg := by decide +kernel
  ascending := by decide +kernel
  runs := by decide +kernel
  sequences := by decide +kernel
  uncased := by decide +kernel
  uncased_runs := by decide +kernel
  uncased_sequences := by decide +kernel

theorem areSettled_upper : AreSettled upperSequences upperRuns where
  zero := rfl
  nonneg := by decide +kernel
  ascending := by decide +kernel
  runs := by decide +kernel
  sequences := by decide +kernel
  uncased := by decide +kernel
  uncased_runs := by decide +kernel
  uncased_sequences := by decide +kernel

variable {seqs : List (Nat × List Nat)} {rs : List CaseRun} {n m : Nat}

theorem mem_of_lookup {ns : List Nat} (h : seqs.lookup n = some ns) : (n, ns) ∈ seqs := by
  obtain ⟨before, after, rfl, -⟩ := List.lookup_eq_some_iff.1 h
  simp

namespace AreSettled

variable (h : AreSettled seqs rs)

include h

theorem imageOf_ne_nil (n : Nat) : imageOf seqs rs n ≠ [] := by
  rw [imageOf]
  split
  next ns hn => exact (h.sequences _ (mem_of_lookup hn)).1
  next => exact List.cons_ne_nil _ []

/-- Code points that the tables spare stay. -/
theorem imageOf_of_tablesSpare {b : CodeRange} {step : Nat}
    (hspare : tablesSpare seqs rs b step = true) (hfirst : b.first ≤ m) (hlast : m ≤ b.last)
    (hstep : b.first = b.last ∨ step = 2 → (m + b.first) % 2 = 0) : imageOf seqs rs m = [m] := by
  rw [tablesSpare, Bool.and_eq_true] at hspare
  have hnotMem := CodeRange.notMem_of_isClearOf hspare.2
    (List.isChain_iff_pairwise.1 h.ascending) hfirst hlast
  have hnone : seqs.lookup m = none := by
    rw [List.lookup_eq_none_iff]
    intro s hs
    refine bne_iff_ne.2 ?_
    rintro rfl
    exact hnotMem (List.mem_map_of_mem hs)
  rw [imageOf, hnone, CaseRun.image_of_spares hspare.1 hfirst hlast hstep]

/-- What the tables have made stays. -/
theorem imageOf_of_mem (hm : m ∈ imageOf seqs rs n) : imageOf seqs rs m = [m] := by
  rw [imageOf] at hm
  split at hm
  next ns hn =>
    have hspare := (h.sequences _ (mem_of_lookup hn)).2 m hm
    refine h.imageOf_of_tablesSpare hspare (Nat.le_refl m) (Nat.le_refl m) fun _ => ?_
    show (m + m) % 2 = 0
    omega
  next hn =>
    obtain rfl := List.mem_singleton.1 hm
    obtain hsame | ⟨r, hr, himage⟩ := CaseRun.image_eq_or rs n
    · rw [hsame, imageOf, hn, hsame]
    · obtain ⟨hfirst, hlast, hstep⟩ := CaseRun.mem_landing himage (h.nonneg r hr)
      exact h.imageOf_of_tablesSpare (h.runs r hr) hfirst hlast hstep

variable {b : CodeRange} (hb : b ∈ uncasedRanges) (hfirst : b.first ≤ m) (hlast : m ≤ b.last)

include hb hfirst hlast

/-- A code point without case is made of itself only. -/
theorem eq_of_mem_imageOf (hm : m ∈ imageOf seqs rs n) : m = n := by
  rw [imageOf] at hm
  split at hm
  next ns hn =>
    have houtside := CodeRange.isOutside_iff.1 (h.uncased_sequences b hb _ (mem_of_lookup hn) m hm)
    omega
  next =>
    obtain rfl := List.mem_singleton.1 hm
    obtain hsame | ⟨r, hr, himage⟩ := CaseRun.image_eq_or rs n
    · exact hsame
    · have hlanding := CaseRun.mem_landing himage (h.nonneg r hr)
      have hapart := CodeRange.isApart_iff.1 (h.uncased_runs b hb r hr)
      omega

theorem imageOf_of_uncased : imageOf seqs rs m = [m] := by
  refine h.imageOf_of_tablesSpare (h.uncased b hb) hfirst hlast ?_
  rintro (hone | htwo) <;> omega

end AreSettled

/-! ## The first 128 characters

On these characters the tables of all scripts agree with the case functions of the library. -/

section Ascii

/-- What holds of each of the first 128 code points holds of their characters. -/
theorem forall_ascii {p : Char → Prop} (h : ∀ n : Fin 128, p (Char.ofNat n)) {c : Char}
    (hc : c.toNat < 128) : p c := by
  have hn := h ⟨c.toNat, hc⟩
  rwa [Char.ofNat_toNat] at hn

variable {c : Char}

theorem toNat_lt_of_isAlphanum (h : c.isAlphanum = true) : c.toNat < 128 := by
  change ((decide ('A'.val ≤ c.val ∧ c.val ≤ 'Z'.val) || ('a'.val ≤ c.val && c.val ≤ 'z'.val)) ||
    ('0'.val ≤ c.val && c.val ≤ '9'.val)) = true at h
  simp only [Bool.or_eq_true, Bool.and_eq_true, decide_eq_true_eq, UInt32.le_iff_toNat_le] at h
  change ((65 ≤ c.toNat ∧ c.toNat ≤ 90) ∨ (97 ≤ c.toNat ∧ c.toNat ≤ 122)) ∨
    (48 ≤ c.toNat ∧ c.toNat ≤ 57) at h
  omega

theorem map_lowerImage_of_ascii (hc : c.toNat < 128) :
    (lowerImage c.toNat).map Char.ofNat = [c.toLower] :=
  forall_ascii (p := fun c => (lowerImage c.toNat).map Char.ofNat = [c.toLower])
    (by decide +kernel) hc

theorem isWordChar_of_isAlphanum (h : c.isAlphanum = true) : isWordChar c = true :=
  forall_ascii (p := fun c => c.isAlphanum = true → isWordChar c = true) (by decide +kernel)
    (toNat_lt_of_isAlphanum h) h

theorem isBlank_of_isAlphanum (h : c.isAlphanum = true) : isBlank c = false :=
  forall_ascii (p := fun c => c.isAlphanum = true → isBlank c = false) (by decide +kernel)
    (toNat_lt_of_isAlphanum h) h

theorem lowerAfter_of_ascii {s : List Char} (hs : ∀ c ∈ s, c.toNat < 128) (before : List Char) :
    lowerAfter before s = s.map Char.toLower := by
  induction s generalizing before with
  | nil => rfl
  | cons c s ih =>
      have hc := hs c List.mem_cons_self
      have hsigma : c ≠ 'Σ' := by
        rintro rfl
        exact absurd hc (by decide)
      rw [lowerAfter, if_neg hsigma, map_lowerImage_of_ascii hc,
        ih (fun d hd => hs d (List.mem_cons_of_mem c hd)), List.map_cons, List.singleton_append]

/-- Lower case letter by letter. -/
theorem lower_of_ascii {s : List Char} (hs : ∀ c ∈ s, c.toNat < 128) :
    lower s = s.map Char.toLower := lowerAfter_of_ascii hs []

end Ascii

end FolderTag.Text
