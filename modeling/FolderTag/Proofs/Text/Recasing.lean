import FolderTag.Proofs.Text.CaseMapping
import FolderTag.Proofs.Text.Collapse

/-! # Texts in another case

A case conversion writes one or more characters for each one, and keeps those without case. So it
keeps white space and separators where they are, and doing it twice is the same as doing it once. -/

namespace FolderTag.Text

variable {c d : Char} {p : Char → Bool} {mark : Char} {s t s' t' : List Char}

/-- Whether a character is known to have no case. -/
def isUncased (c : Char) : Bool :=
  uncasedRanges.any fun b => b.first ≤ c.toNat && c.toNat ≤ b.last

theorem isUncased_iff :
    isUncased c = true ↔ ∃ b ∈ uncasedRanges, b.first ≤ c.toNat ∧ c.toNat ≤ b.last := by
  simp [isUncased]

/-! ## What is written for one character -/

/-- `ds` may be written for `c` in another case. -/
structure IsCaseOf (c : Char) (ds : List Char) : Prop where
  ne_nil : ds ≠ []
  eq_of_uncased : ∀ d ∈ ds, isUncased d = true → d = c
  eq_singleton : isUncased c = true → ds = [c]

theorem isCaseOf_self (c : Char) : IsCaseOf c [c] where
  ne_nil := List.cons_ne_nil c []
  eq_of_uncased := by simp
  eq_singleton := fun _ => rfl

/-- What is said of characters without case is not said of a letter in another case. -/
theorem IsCaseOf.forall_eq_false {ds : List Char} (h : IsCaseOf c ds)
    (hp : ∀ c, p c = true → isUncased c = true) (hc : p c = false) : ∀ d ∈ ds, p d = false := by
  intro d hd
  by_contra htrue
  rw [Bool.not_eq_false] at htrue
  rw [h.eq_of_uncased d hd (hp d htrue), hc] at htrue
  cases htrue

theorem toNat_ofNat_or (n : Nat) : (Char.ofNat n).toNat = n ∨ (Char.ofNat n).toNat = 0 := by
  by_cases hvalid : n.isValidChar
  · rw [Char.ofNat, dif_pos hvalid]
    exact .inl rfl
  · rw [Char.ofNat, dif_neg hvalid]
    exact .inr rfl

namespace AreSettled

variable {seqs : List (Nat × List Nat)} {rs : List CaseRun} (h : AreSettled seqs rs)

include h

theorem isCaseOf (c : Char) : IsCaseOf c ((imageOf seqs rs c.toNat).map Char.ofNat) where
  ne_nil := by simpa using h.imageOf_ne_nil c.toNat
  eq_of_uncased := by
    intro d hd hcase
    obtain ⟨m, hm, rfl⟩ := List.mem_map.1 hd
    obtain ⟨b, hb, hfirst, hlast⟩ := isUncased_iff.1 hcase
    rcases toNat_ofNat_or m with hvalid | hzero
    · rw [hvalid] at hfirst hlast
      rw [h.eq_of_mem_imageOf hb hfirst hlast hm, Char.ofNat_toNat]
    · have hpos : ∀ b ∈ uncasedRanges, 0 < b.first := by decide
      have := hpos b hb
      omega
  eq_singleton := by
    intro hcase
    obtain ⟨b, hb, hfirst, hlast⟩ := isUncased_iff.1 hcase
    rw [h.imageOf_of_uncased hb hfirst hlast, List.map_singleton, Char.ofNat_toNat]

/-- What is written for a character is written for itself. -/
theorem map_imageOf_of_mem (hd : d ∈ (imageOf seqs rs c.toNat).map Char.ofNat) :
    (imageOf seqs rs d.toNat).map Char.ofNat = [d] := by
  obtain ⟨m, hm, rfl⟩ := List.mem_map.1 hd
  rcases toNat_ofNat_or m with hvalid | hzero
  · rw [hvalid, h.imageOf_of_mem hm, List.map_singleton]
  · rw [hzero, h.zero, List.map_singleton, ← hzero, Char.ofNat_toNat]

end AreSettled

theorem lower_singleton (c : Char) : lower [c] = (lowerImage c.toNat).map Char.ofNat := by
  rw [lower, lowerAfter, lowerAfter, List.append_nil]
  split_ifs with hc
  · rw [hc]
    rfl
  · rfl

theorem upper_singleton (c : Char) : upper [c] = (upperImage c.toNat).map Char.ofNat := by
  rw [upper, List.flatMap_singleton]

theorem isCaseOf_lower (c : Char) : IsCaseOf c (lower [c]) := by
  rw [lower_singleton]
  exact areSettled_lower.isCaseOf c

theorem isCaseOf_upper (c : Char) : IsCaseOf c (upper [c]) := by
  rw [upper_singleton]
  exact areSettled_upper.isCaseOf c

theorem lower_of_mem_singleton (h : d ∈ lower [c]) : lower [d] = [d] := by
  rw [lower_singleton] at h ⊢
  exact areSettled_lower.map_imageOf_of_mem h

theorem upper_of_mem_singleton (h : d ∈ upper [c]) : upper [d] = [d] := by
  rw [upper_singleton] at h ⊢
  exact areSettled_upper.map_imageOf_of_mem h

/-! ## Lower and upper case of texts -/

theorem lowerAfter_cons (before : List Char) (c : Char) (s : List Char) :
    ∃ ds, lowerAfter before (c :: s) = ds ++ lowerAfter (c :: before) s ∧ IsCaseOf c ds ∧
      ∀ d ∈ ds, lower [d] = [d] := by
  rw [lowerAfter]
  split_ifs with hc
  · refine ⟨_, rfl, ?_, ?_⟩
    · rw [hc, lowerSigma]
      split_ifs <;> exact ⟨List.cons_ne_nil _ _, List.forall_mem_singleton.2 (by decide), by decide⟩
    · intro d hd
      rw [List.mem_singleton.1 hd, lowerSigma]
      split_ifs <;> rfl
  · rw [← lower_singleton]
    exact ⟨_, rfl, isCaseOf_lower c, fun d hd => lower_of_mem_singleton hd⟩

theorem lower_of_mem_lowerAfter {before : List Char} (h : d ∈ lowerAfter before s) :
    lower [d] = [d] := by
  induction s generalizing before with
  | nil => cases h
  | cons c s ih =>
      obtain ⟨ds, hds, -, hkept⟩ := lowerAfter_cons before c s
      rw [hds, List.mem_append] at h
      exact h.elim (hkept d) ih

theorem lower_of_mem_lower (h : d ∈ lower s) : lower [d] = [d] := lower_of_mem_lowerAfter h

theorem lower_of_forall (h : ∀ c ∈ s, lower [c] = [c]) : lower s = s := by
  rw [lower]
  generalize [] = before
  induction s generalizing before with
  | nil => rfl
  | cons c s ih =>
      have hc := h c List.mem_cons_self
      have hsigma : c ≠ 'Σ' := by
        rintro rfl
        exact absurd hc (by decide)
      rw [lower_singleton] at hc
      rw [lowerAfter, if_neg hsigma, hc, ih (fun d hd => h d (List.mem_cons_of_mem c hd)),
        List.singleton_append]

theorem lower_of_sublist (hsub : t.Sublist s) (h : lower s = s) : lower t = t :=
  lower_of_forall fun _ hc => lower_of_mem_lower (h ▸ hsub.subset hc)

@[simp] theorem lower_lower (s : List Char) : lower (lower s) = lower s :=
  lower_of_forall fun _ hd => lower_of_mem_lower hd

theorem upper_cons (c : Char) (s : List Char) : upper (c :: s) = upper [c] ++ upper s := by
  rw [upper, List.flatMap_cons, upper_singleton]
  rfl

theorem upper_of_mem_upper (h : d ∈ upper s) : upper [d] = [d] := by
  induction s with
  | nil => cases h
  | cons c s ih =>
      rw [upper_cons, List.mem_append] at h
      exact h.elim upper_of_mem_singleton ih

theorem upper_of_forall (h : ∀ c ∈ s, upper [c] = [c]) : upper s = s := by
  induction s with
  | nil => rfl
  | cons c s ih =>
      rw [upper_cons, h c List.mem_cons_self, ih fun d hd => h d (List.mem_cons_of_mem c hd)]
      rfl

theorem upper_of_sublist (hsub : t.Sublist s) (h : upper s = s) : upper t = t :=
  upper_of_forall fun _ hc => upper_of_mem_upper (h ▸ hsub.subset hc)

@[simp] theorem upper_upper (s : List Char) : upper (upper s) = upper s :=
  upper_of_forall fun _ hd => upper_of_mem_upper hd

/-! ## Texts written in another case -/

/-- The second text is the first one with some characters written in another case. -/
inductive Recased : List Char → List Char → Prop
  | nil : Recased [] []
  | cons {c ds s t} : IsCaseOf c ds → Recased s t → Recased (c :: s) (ds ++ t)

theorem recased_self (s : List Char) : Recased s s := by
  induction s with
  | nil => exact .nil
  | cons c s ih => exact .cons (isCaseOf_self c) ih

theorem recased_lower (s : List Char) : Recased s (lower s) := by
  rw [lower]
  generalize [] = before
  induction s generalizing before with
  | nil => exact .nil
  | cons c s ih =>
      obtain ⟨ds, hds, hc, -⟩ := lowerAfter_cons before c s
      rw [hds]
      exact .cons hc (ih _)

theorem recased_upper (s : List Char) : Recased s (upper s) := by
  induction s with
  | nil => exact .nil
  | cons c s ih =>
      rw [upper_cons]
      exact .cons (isCaseOf_upper c) ih

namespace Recased

/-- Characters without case are neither put in nor taken out. -/
theorem mem_iff (h : Recased s t) (hd : isUncased d = true) : d ∈ t ↔ d ∈ s := by
  induction h with
  | nil => rfl
  | @cons c ds s t hc _ ih =>
      rw [List.mem_append, List.mem_cons, ih]
      refine or_congr_left ⟨fun hmem => hc.eq_of_uncased d hmem hd, ?_⟩
      rintro rfl
      rw [hc.eq_singleton hd]
      exact List.mem_singleton_self d

/-- No character is left out. -/
theorem isEmpty_eq (h : Recased s t) : t.isEmpty = s.isEmpty := by
  cases h with
  | nil => rfl
  | @cons c ds s t hc _ =>
      obtain ⟨d, ds, rfl⟩ := List.exists_cons_of_ne_nil hc.ne_nil
      rfl

variable (hp : ∀ c, p c = true → isUncased c = true)

include hp

theorem forall_eq_false (h : Recased s t) (hs : ∀ c ∈ s, p c = false) : ∀ d ∈ t, p d = false := by
  intro d hd
  by_contra htrue
  rw [Bool.not_eq_false] at htrue
  rw [hs d ((h.mem_iff (hp d htrue)).1 hd)] at htrue
  cases htrue

theorem countP_eq (h : Recased s t) : t.countP p = s.countP p := by
  induction h with
  | nil => rfl
  | @cons c ds s t hc _ ih =>
      rw [List.countP_append, ih, List.countP_cons]
      cases hpc : p c with
      | true => rw [hc.eq_singleton (hp c hpc), List.countP_singleton, hpc, Nat.add_comm]
      | false =>
          have hnone : ds.countP p = 0 :=
            List.countP_eq_zero.2 fun d hd => by simp [hc.forall_eq_false hp hpc d hd]
          rw [hnone]
          simp

theorem head? (h : Recased s t) (hs : ∀ c ∈ s.head?, p c = false) :
    ∀ d ∈ t.head?, p d = false := by
  cases h with
  | nil => exact hs
  | @cons c ds s t hc h =>
      rw [List.head?_append_of_ne_nil _ hc.ne_nil]
      exact fun d hd => hc.forall_eq_false hp (hs c rfl) d (List.mem_of_mem_head? hd)

/-- A text stays collapsed in another case. -/
theorem collapse_eq_self (h : Recased s t) (hs : collapse p mark s = s) :
    collapse p mark t = t := by
  induction h with
  | nil => exact collapse_nil
  | @cons c ds s t hc h ih =>
      obtain ⟨hrest, hrun⟩ := collapse_cons_eq_self hs
      cases hpc : p c with
      | true =>
          rw [hc.eq_singleton (hp c hpc)]
          obtain ⟨hmark, hhead⟩ := hrun hpc
          exact collapse_eq_self_of_cons (ih hrest) fun _ => ⟨hmark, h.head? hp hhead⟩
      | false => rw [collapse_append (hc.forall_eq_false hp hpc), ih hrest]

end Recased

/-! ## Lower case between words -/

/-- A character without case over which no word reaches. -/
structure IsBreak (c : Char) : Prop where
  uncased : isUncased c = true
  casedNext_cons : ∀ s, casedNext (c :: s) = false

/-- White space, hyphens, slashes and underscores. -/
def breakRanges : List CodeRange := blankRanges ++ [⟨0x2d, 0x2d⟩, ⟨0x2f, 0x2f⟩, ⟨0x5f, 0x5f⟩]

/-- The code points of a range are not covered by ranges apart from it. -/
theorem CodeRange.covers_of_isApart {b : CodeRange} {rs : List CodeRange} {n : Nat}
    (h : ∀ r ∈ rs, b.isApart r = true) (hfirst : b.first ≤ n) (hlast : n ≤ b.last) :
    CodeRange.covers rs n = false := by
  by_contra hcovers
  rw [Bool.not_eq_false] at hcovers
  obtain ⟨r, hr, hlow, hhigh⟩ := CodeRange.exists_of_covers hcovers
  have := CodeRange.isApart_iff.1 (h r hr)
  omega

theorem isBreak_of_mem {b : CodeRange} (hb : b ∈ breakRanges) (hfirst : b.first ≤ c.toNat)
    (hlast : c.toNat ≤ b.last) : IsBreak c where
  uncased := by
    have hwithin : ∀ b ∈ breakRanges, ∃ u ∈ uncasedRanges, u.first ≤ b.first ∧ b.last ≤ u.last := by
      decide
    obtain ⟨u, hu, hlow, hhigh⟩ := hwithin b hb
    exact isUncased_iff.2 ⟨u, hu, hlow.trans hfirst, hlast.trans hhigh⟩
  casedNext_cons := by
    have hapart : ∀ b ∈ breakRanges, ∀ r ∈ caseIgnorableRanges ++ casedRanges,
        b.isApart r = true := by decide +kernel
    have hignorable := CodeRange.covers_of_isApart
      (fun r hr => hapart b hb r (List.mem_append_left _ hr)) hfirst hlast
    have hcased := CodeRange.covers_of_isApart
      (fun r hr => hapart b hb r (List.mem_append_right _ hr)) hfirst hlast
    intro s
    rw [casedNext, hignorable, hcased]
    rfl

theorem isBreak_of_isBlank (h : isBlank c = true) : IsBreak c := by
  obtain ⟨b, hb, hfirst, hlast⟩ := CodeRange.exists_of_covers h
  exact isBreak_of_mem (List.mem_append_left _ hb) hfirst hlast

theorem lowerAfter_congr {before before' : List Char} (h : casedNext before = casedNext before')
    (s : List Char) : lowerAfter before s = lowerAfter before' s := by
  induction s generalizing before before' with
  | nil => rfl
  | cons c s ih =>
      rw [lowerAfter, lowerAfter, lowerSigma, lowerSigma, h, ih]
      simp only [casedNext, h]

theorem lowerAfter_cons_of_isBreak (hc : IsBreak c) (before s : List Char) :
    lowerAfter before (c :: s) = c :: lower s := by
  have hsigma : c ≠ 'Σ' := by
    rintro rfl
    exact absurd hc.uncased (by decide)
  have hself := (isCaseOf_lower c).eq_singleton hc.uncased
  rw [lower_singleton] at hself
  have hnone : casedNext (c :: before) = casedNext [] := hc.casedNext_cons before
  rw [lowerAfter, if_neg hsigma, hself, lower, lowerAfter_congr hnone]
  rfl

section Break

variable (hp : ∀ c, p c = true → IsBreak c)

include hp

theorem lower_dropWhile (s : List Char) : lower (s.dropWhile p) = (lower s).dropWhile p := by
  induction s with
  | nil => rfl
  | cons c s ih =>
      cases hc : p c with
      | true =>
          have hcons : lower (c :: s) = c :: lower s := lowerAfter_cons_of_isBreak (hp c hc) [] s
          rw [hcons, List.dropWhile_cons, if_pos hc, List.dropWhile_cons, if_pos hc, ih]
      | false =>
          have hhead := (recased_lower (c :: s)).head? (fun d hd => (hp d hd).uncased)
            (fun d hd => by rwa [← Option.mem_some.1 hd])
          rw [List.dropWhile_cons, if_neg (by simp [hc]), dropWhile_of_head hhead]

theorem casedNext_collapse (hmark : IsBreak mark) (s : List Char) :
    casedNext (collapse p mark s) = casedNext s := by
  induction s using collapse.induct p with
  | case1 => rw [collapse_nil]
  | case2 c s hc ih =>
      rw [collapse_of_pos hc, hmark.casedNext_cons, (hp c hc).casedNext_cons]
  | case3 c s hc ih =>
      rw [Bool.not_eq_true] at hc
      rw [collapse_of_neg hc, casedNext, casedNext, ih]

/-- Collapsing what is between words does not change how the words are written. -/
theorem lower_collapse (hmark : IsBreak mark) (s : List Char) :
    lower (collapse p mark s) = collapse p mark (lower s) := by
  have huncased : ∀ c, p c = true → isUncased c = true := fun c hc => (hp c hc).uncased
  suffices h : ∀ before, lowerAfter before (collapse p mark s) =
      collapse p mark (lowerAfter before s) from h []
  induction s using collapse.induct p with
  | case1 =>
      intro before
      simp [collapse_nil, lowerAfter]
  | case2 c s hc ih =>
      intro before
      rw [collapse_of_pos hc, lowerAfter_cons_of_isBreak hmark, lowerAfter_cons_of_isBreak (hp c hc),
        collapse_of_pos hc, lower, ih, ← lower, lower_dropWhile hp]
  | case3 c s hc ih =>
      intro before
      rw [Bool.not_eq_true] at hc
      have hsigma : lowerSigma before (collapse p mark s) = lowerSigma before s := by
        rw [lowerSigma, lowerSigma, casedNext_collapse hp hmark]
      obtain ⟨ds, hds, hcase, -⟩ := lowerAfter_cons before c s
      rw [hds, collapse_append (hcase.forall_eq_false huncased hc), ← ih (c :: before),
        collapse_of_neg hc]
      rw [lowerAfter] at hds ⊢
      rw [hsigma, List.append_cancel_right hds]

end Break

end FolderTag.Text
