import FolderTag.Proofs.Text.Collapse
import FolderTag.Proofs.Transform.Separated

/-! # Titles

A title is made of the words of a text, each of them capitalized, with single blanks between them.
So it keeps no more than these words: two texts have the same title exactly when their capitalized
words agree. A title is its own title where the capital forms are made of characters of words. -/

namespace FolderTag.Transform

open FolderTag.Text

variable {c : Char} {s t w ds : List Char}

/-! ## Capitalized words -/

theorem isWordChar_of_isBlank (h : isBlank c = true) : isWordChar c = false := by
  obtain ⟨b, hb, hfirst, hlast⟩ := CodeRange.exists_of_covers h
  have hapart : ∀ b ∈ blankRanges, ∀ r ∈ letterRanges ++ numeralRanges, b.isApart r = true := by
    decide +kernel
  have hletter : isLetter c = false := CodeRange.covers_of_isApart
    (fun r hr => hapart b hb r (List.mem_append_left _ hr)) hfirst hlast
  have hnumeral : isNumeral c = false := CodeRange.covers_of_isApart
    (fun r hr => hapart b hb r (List.mem_append_right _ hr)) hfirst hlast
  have hunderscore : c ≠ '_' := by
    rintro rfl
    exact absurd h (by decide)
  rw [isWordChar, isAlphanumeric, hletter, hnumeral, beq_false_of_ne hunderscore]
  rfl

theorem recased_capitalizeWords (inWord : Bool) (s : List Char) :
    Recased s (capitalizeWords inWord s) := by
  induction s generalizing inWord with
  | nil => exact .nil
  | cons c s ih =>
      rw [capitalizeWords]
      split_ifs
      · exact .cons (isCaseOf_upper c) (ih _)
      · exact .cons (isCaseOf_self c) (ih _)

/-- No word reaches over a character that is none of a word. -/
theorem capitalizeWords_append_cons (hc : isWordChar c = false) (inWord : Bool) (s t : List Char) :
    capitalizeWords inWord (s ++ c :: t) =
      capitalizeWords inWord s ++ c :: capitalizeWords false t := by
  induction s generalizing inWord with
  | nil =>
      rw [List.nil_append, capitalizeWords, capitalizeWords, hc, Bool.false_and,
        if_neg Bool.false_ne_true]
      rfl
  | cons d s ih => rw [List.cons_append, capitalizeWords, ih, ← List.append_assoc, capitalizeWords]

theorem words_capitalizeWords (s : List Char) :
    words isBlank (capitalizeWords false s) = (words isBlank s).map (capitalizeWords false) := by
  have huncased : ∀ c, isBlank c = true → isUncased c = true := fun c hc =>
    (isBreak_of_isBlank hc).uncased
  have hone : ∀ w, (∀ c ∈ w, isBlank c = false) →
      words isBlank (capitalizeWords false w) = (words isBlank w).map (capitalizeWords false) := by
    intro w hw
    have hcase := recased_capitalizeWords false w
    rw [words_of_forall (hcase.forall_eq_false huncased hw), words_of_forall hw, hcase.isEmpty_eq]
    split_ifs <;> rfl
  induction s using text_induction isBlank with
  | word w hw => exact hone w hw
  | step w c s hw hc ih =>
      rw [capitalizeWords_append_cons (isWordChar_of_isBlank hc), words_append_cons hc,
        words_append_cons hc, hone w hw, ih, List.map_append]

/-! ## Titles and their words -/

/-- The words of a title. -/
def titleWords (s : List Char) : List (List Char) := (words isSeparator s).map (capitalizeWords false)

theorem title_eq (s : List Char) : title s = joinWith [' '] (titleWords s) := by
  have hkind : (fun c => (c == '_' || c == '-') || isBlank c) = isSeparator := by
    funext c
    rw [isSeparator, Bool.or_comm, Bool.or_assoc]
  rw [title, trim_collapse, words_capitalizeWords, words_collapse_or (by decide), hkind, titleWords]

theorem forall_mem_titleWords : ∀ w ∈ titleWords s, w ≠ [] ∧ ∀ c ∈ w, isSeparator c = false := by
  intro w hw
  obtain ⟨v, hv, rfl⟩ := List.mem_map.1 hw
  obtain ⟨hne, hplain⟩ := forall_mem_words v hv
  have hcase := recased_capitalizeWords false v
  refine ⟨fun hnil => hne (List.isEmpty_iff.1 ?_), ?_⟩
  · rw [← hcase.isEmpty_eq, hnil]
    rfl
  · exact hcase.forall_eq_false (fun c hc => isUncased_of_isSeparator hc) hplain

theorem words_title (s : List Char) : words isSeparator (title s) = titleWords s := by
  rw [title_eq, words_joinWith (by decide) forall_mem_titleWords]

/-- A title tells the capitalized words of a text and nothing else. -/
theorem title_eq_title_iff : title s = title t ↔ titleWords s = titleWords t := by
  constructor
  · intro h
    rw [← words_title, ← words_title, h]
  · intro h
    rw [title_eq, title_eq, h]

/-! ## Titles of titles -/

/-- A character whose capital form belongs to a word as far as it does itself. It is not always so:
the capital form of `ǰ` has a mark in it that is no character of words. -/
def HasPlainCapital (c : Char) : Prop :=
  isWordChar c = true → ∀ d ∈ capital c, isWordChar d = true

theorem capitalizeWords_append (hds : ∀ d ∈ ds, isWordChar d = true) (s : List Char) :
    capitalizeWords true (ds ++ s) = ds ++ capitalizeWords true s := by
  induction ds with
  | nil => rfl
  | cons d ds ih =>
      rw [List.cons_append, capitalizeWords, hds d List.mem_cons_self,
        ih fun e he => hds e (List.mem_cons_of_mem d he)]
      rfl

/-- The capital form of a character is that of its first character. -/
theorem capitalizeWords_capital_append (hc : ∀ d ∈ capital c, isWordChar d = true)
    (s : List Char) :
    capitalizeWords false (capital c ++ s) = capital c ++ capitalizeWords true s := by
  have hkept : ∀ d ∈ capital c, capital d = [d] := fun d hd => upper_of_mem_singleton hd
  obtain ⟨d, ds, hds⟩ := List.exists_cons_of_ne_nil (isCaseOf_upper c).ne_nil
  rw [← capital] at hds
  rw [hds] at hc hkept ⊢
  rw [List.cons_append, capitalizeWords, hc d List.mem_cons_self, hkept d List.mem_cons_self,
    capitalizeWords_append fun e he => hc e (List.mem_cons_of_mem d he)]
  rfl

theorem capitalizeWords_capitalizeWords (h : ∀ c ∈ s, HasPlainCapital c) (inWord : Bool) :
    capitalizeWords inWord (capitalizeWords inWord s) = capitalizeWords inWord s := by
  induction s generalizing inWord with
  | nil => rfl
  | cons c s ih =>
      have hs := ih fun d hd => h d (List.mem_cons_of_mem c hd)
      rw [capitalizeWords]
      by_cases hfirst : (isWordChar c && !inWord) = true
      · rw [if_pos hfirst]
        rw [Bool.and_eq_true, Bool.not_eq_true'] at hfirst
        rw [hfirst.1, hfirst.2, capitalizeWords_capital_append (h c List.mem_cons_self hfirst.1), hs]
      · rw [if_neg hfirst, List.singleton_append, capitalizeWords, if_neg hfirst, hs]
        rfl

theorem title_title (h : ∀ c ∈ s, HasPlainCapital c) : title (title s) = title s := by
  rw [title_eq_title_iff, titleWords, words_title, titleWords, List.map_map]
  refine List.map_congr_left fun w hw => ?_
  exact capitalizeWords_capitalizeWords (fun c hc => h c (mem_of_mem_words hw hc)) false

/-- The capital form of `ǰ` ends with a mark, behind which a title of the title begins a word. -/
example : title "ǰa".toList = "J̌a".toList ∧ title "J̌a".toList = "J̌A".toList := by decide +kernel

/-! ## What a title looks like -/

theorem isSpaced_title (s : List Char) : IsSpaced (title s) := isSpaced_trim_collapse _

theorem eq_blank_of_mem_title (hc : c ∈ title s) (hsep : isSeparator c = true) : c = ' ' := by
  rw [title_eq] at hc
  rcases mem_joinWith hc with hc | ⟨w, hw, hc⟩
  · exact List.mem_singleton.1 hc
  · have hplain := (forall_mem_titleWords w hw).2 c hc
    rw [hsep] at hplain
    cases hplain

theorem hasPlainCapital_of_ascii (hc : c.toNat < 128) : HasPlainCapital c := by
  have hcapital : isWordChar c = true → (capital c).all isWordChar = true :=
    forall_ascii (p := fun c => isWordChar c = true → (capital c).all isWordChar = true)
      (by decide +kernel) hc
  exact fun hword => List.all_eq_true.1 (hcapital hword)

/-- A title has the words of the text, each of them capitalized, with single blanks for whatever
separated them. The title of a text of the first 128 characters is its own title. -/
theorem title_spaced_and_kept (s : List Char) :
    ('_' ∉ title s ∧ '-' ∉ title s ∧ IsSpaced (title s)) ∧
      words isSeparator (title s) = (words isSeparator s).map (capitalizeWords false) ∧
      ((∀ c ∈ s, c.toNat < 128) → title (title s) = title s) := by
  refine ⟨⟨fun hmem => ?_, fun hmem => ?_, isSpaced_title s⟩, words_title s, fun hascii => ?_⟩
  · exact absurd (eq_blank_of_mem_title hmem (by decide)) (by decide)
  · exact absurd (eq_blank_of_mem_title hmem (by decide)) (by decide)
  · exact title_title fun c hc => hasPlainCapital_of_ascii (hascii c hc)

/-- Separators of all sorts, at the ends and between words, and a word with an apostrophe. -/
theorem title_spaced_and_kept_mixed :
    (∀ c ∈ "-_ to  o'neil\t(re)-_2nd -".toList, c.toNat < 128) ∧
      title "-_ to  o'neil\t(re)-_2nd -".toList = "To O'Neil (Re) 2nd".toList ∧
      title "To O'Neil (Re) 2nd".toList = "To O'Neil (Re) 2nd".toList := by
  have hascii : ∀ c ∈ "-_ to  o'neil\t(re)-_2nd -".toList, c.toNat < 128 := by simp
  have htitle : title "-_ to  o'neil\t(re)-_2nd -".toList = "To O'Neil (Re) 2nd".toList := by
    decide +kernel
  have htwice := (title_spaced_and_kept "-_ to  o'neil\t(re)-_2nd -".toList).2.2 hascii
  rw [htitle] at htwice
  exact ⟨hascii, htitle, htwice⟩

end FolderTag.Transform
