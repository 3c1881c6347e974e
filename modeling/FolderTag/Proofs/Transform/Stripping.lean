import FolderTag.Proofs.Transform.Numbered
import FolderTag.Transform.Emoji

/-! # What stripping takes out

A number prefix ends with a separator, so that a text without its number has fewer separators. What
is left of a text without its emoji has single blanks only. -/

namespace FolderTag.Transform

open FolderTag.Text

variable {c : Char} {s t line : List Char}

/-! ## Number prefixes -/

/-- `line` stands somewhere behind a separator of `s`. -/
def IsBehindSeparator (s line : List Char) : Prop :=
  ∃ c rest, isSeparator c = true ∧ (c :: rest) <:+ s ∧ line <:+: rest

/-- A name without its number stands behind the separator between the two. -/
theorem isBehindSeparator_stripNumber (h : hasNumber s = true) :
    IsBehindSeparator s (stripNumber s) := by
  rw [hasNumber, Option.isSome_iff_exists] at h
  obtain ⟨n, hn⟩ := h
  obtain ⟨c, rest, line, hc, hrest, hline, -, hname⟩ := Numbered.exists_of_ofText? hn
  have hpart := (infix_trimWhile isBlank line).trans (infix_of_lineBehindBlanks hline)
  rw [stripNumber, hn, hname]
  exact ⟨c, rest, hc, hrest, hpart⟩

theorem stripNumber_of_hasNumber_eq_false (h : hasNumber s = false) : stripNumber s = s := by
  rw [hasNumber, Option.isSome_eq_false_iff, Option.isNone_iff_eq_none] at h
  rw [stripNumber, h]
  rfl

theorem countP_stripNumber_lt (h : hasNumber s = true) :
    (stripNumber s).countP isSeparator < s.countP isSeparator := by
  obtain ⟨c, rest, hc, hrest, hpart⟩ := isBehindSeparator_stripNumber h
  have hwhole := hrest.sublist.countP_le (p := isSeparator)
  have hname := hpart.sublist.countP_le (p := isSeparator)
  rw [List.countP_cons_of_pos hc] at hwhole
  omega

theorem infix_stripNumber (s : List Char) : stripNumber s <:+: s := by
  cases h : hasNumber s with
  | false => exact (stripNumber_of_hasNumber_eq_false h).symm ▸ List.infix_refl s
  | true =>
      obtain ⟨c, rest, -, hrest, hpart⟩ := isBehindSeparator_stripNumber h
      exact hpart.trans ((List.suffix_cons c rest).isInfix.trans hrest.isInfix)

/-! ## Emoji -/

/-- Whether a character is taken out with the emoji. -/
def isPictorial (c : Char) : Bool := isEmoji c || isSelector c

theorem exists_of_isPictorial (h : isPictorial c = true) :
    ∃ r ∈ emojiRanges ++ [⟨0xfe00, 0xfe0f⟩], r.first ≤ c.toNat ∧ c.toNat ≤ r.last := by
  rw [isPictorial, Bool.or_eq_true] at h
  rcases h with h | h
  · obtain ⟨r, hr, hc⟩ := CodeRange.exists_of_covers h
    exact ⟨r, List.mem_append_left _ hr, hc⟩
  · rw [isSelector, Bool.and_eq_true, decide_eq_true_eq, decide_eq_true_eq] at h
    exact ⟨⟨0xfe00, 0xfe0f⟩, by simp, h⟩

theorem isUncased_of_isPictorial (h : isPictorial c = true) : isUncased c = true := by
  have hwithin : ∀ r ∈ emojiRanges ++ [⟨0xfe00, 0xfe0f⟩],
      ∃ u ∈ uncasedRanges, u.first ≤ r.first ∧ r.last ≤ u.last := by decide
  obtain ⟨r, hr, hfirst, hlast⟩ := exists_of_isPictorial h
  obtain ⟨u, hu, hlow, hhigh⟩ := hwithin r hr
  exact isUncased_iff.2 ⟨u, hu, hlow.trans hfirst, hlast.trans hhigh⟩

theorem isSeparator_of_isPictorial (h : isPictorial c = true) : isSeparator c = false := by
  have hapart : ∀ r ∈ emojiRanges ++ [⟨0xfe00, 0xfe0f⟩],
      ∀ b ∈ blankRanges ++ [⟨0x2d, 0x2d⟩, ⟨0x5f, 0x5f⟩], r.isApart b = true := by decide
  obtain ⟨r, hr, hfirst, hlast⟩ := exists_of_isPictorial h
  have hblank : isBlank c = false := CodeRange.covers_of_isApart
    (fun b hb => hapart r hr b (List.mem_append_left _ hb)) hfirst hlast
  have hmark : ∀ d : Char, (⟨d.toNat, d.toNat⟩ : CodeRange) ∈ [⟨0x2d, 0x2d⟩, ⟨0x5f, 0x5f⟩] →
      (c == d) = false := by
    intro d hd
    apply beq_false_of_ne
    rintro rfl
    have : r.last < c.toNat ∨ c.toNat < r.first :=
      CodeRange.isApart_iff.1 (hapart r hr _ (List.mem_append_right _ hd))
    omega
  rw [isSeparator, hblank, hmark '_' (by decide), hmark '-' (by decide)]
  rfl

theorem mem_stripEmoji (h : c ∈ stripEmoji s) :
    c = ' ' ∨ c ∈ s ∧ isPictorial c = false ∧ isBlank c = false := by
  refine (mem_collapse (mem_of_mem_trim h)).imp_right fun ⟨hmem, hblank⟩ => ?_
  obtain ⟨hs, hpictorial⟩ := List.mem_filter.1 hmem
  exact ⟨hs, by simpa [isPictorial] using hpictorial, hblank⟩

theorem isPictorial_of_mem_stripEmoji (h : c ∈ stripEmoji s) : isPictorial c = false := by
  rcases mem_stripEmoji h with rfl | ⟨-, hc, -⟩
  · decide
  · exact hc

theorem collapse_stripEmoji (s : List Char) :
    collapse isBlank ' ' (stripEmoji s) = stripEmoji s := collapse_trim_collapse _

theorem countP_stripEmoji_le (s : List Char) :
    (stripEmoji s).countP isSeparator ≤ s.countP isSeparator :=
  (countP_trim_collapse_le _).trans List.filter_sublist.countP_le

theorem stripEmoji_eq (h : ∀ c ∈ s, isPictorial c = false) :
    stripEmoji s = trim (collapse isBlank ' ' s) := by
  rw [stripEmoji, List.filter_eq_self.2 fun c hc => by
    rw [← isPictorial, h c hc]
    rfl]

/-! ## Where nothing is taken out -/

theorem not_isSeparator_of_isBlank (h : isBlank c = true) : (!isSeparator c) = false := by
  rw [isSeparator_of_isBlank h]
  rfl

theorem trim_of_countP_eq (h : (trim s).countP isSeparator = s.countP isSeparator) : trim s = s :=
  eq_of_sublist_of_countP_eq (infix_trimWhile isBlank s).sublist h
    (filter_trimWhile (fun _ hc => not_isSeparator_of_isBlank hc) s)

/-- Where there is no emoji and no white space but blanks, only blanks can be taken out. -/
theorem stripEmoji_of_countP_eq (hnone : ∀ c ∈ s, isPictorial c = false)
    (hblank : ∀ c ∈ s, isBlank c = true → c = ' ')
    (h : (stripEmoji s).countP isSeparator = s.countP isSeparator) : stripEmoji s = s := by
  have hkept : ∀ c, isBlank c = true → (!isSeparator c) = false := fun _ hc =>
    not_isSeparator_of_isBlank hc
  refine eq_of_sublist_of_countP_eq ?_ h ?_
  · rw [stripEmoji_eq hnone]
    exact (infix_trimWhile isBlank _).sublist.trans (collapse_sublist hblank)
  · rw [stripEmoji_eq hnone, trim, filter_trimWhile hkept, filter_collapse hkept (by decide)]

end FolderTag.Transform
