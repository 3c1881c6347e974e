import FolderTag.Proofs.Text.Collapse
import FolderTag.Proofs.Transform.Stripping

/-! # Emoji that are found, listed and stripped

The list of the emoji of a text tells each of them with the selector right behind it. Stripping
leaves the words of what is no emoji and no selector, with single blanks between them, so that there
is nothing left to find, to list or to strip. -/

namespace FolderTag.Transform

open FolderTag.Text

variable {c : Char} {s : List Char}

/-! ## Emoji that are listed -/

theorem emojiOf_of_isEmoji (hc : isEmoji c = true) (s : List Char) :
    emojiOf (c :: s) = (c :: (s.head?.filter isSelector).toList) :: emojiOf s := by
  rw [emojiOf, if_pos hc]

theorem emojiOf_of_not (hc : isEmoji c = false) (s : List Char) : emojiOf (c :: s) = emojiOf s := by
  rw [emojiOf, if_neg (by simp [hc])]

theorem length_emojiOf (s : List Char) : (emojiOf s).length = s.countP isEmoji := by
  induction s with
  | nil => rfl
  | cons c s ih =>
      by_cases hc : isEmoji c = true
      · rw [emojiOf_of_isEmoji hc, List.length_cons, ih, List.countP_cons_of_pos hc]
      · rw [emojiOf_of_not (by simpa using hc), ih, List.countP_cons_of_neg hc]

/-- An emoji is listed behind those that stand before it. -/
theorem getElem?_emojiOf (hc : isEmoji c = true) (before after : List Char) :
    (emojiOf (before ++ c :: after))[before.countP isEmoji]? =
      some (c :: (after.head?.filter isSelector).toList) := by
  induction before with
  | nil => simp [emojiOf_of_isEmoji hc]
  | cons b before ih =>
      by_cases hb : isEmoji b = true
      · rw [List.cons_append, emojiOf_of_isEmoji hb, List.countP_cons_of_pos hb,
          List.getElem?_cons_succ, ih]
      · rw [List.cons_append, emojiOf_of_not (by simpa using hb), List.countP_cons_of_neg hb, ih]

theorem isEmoji_of_isSelector (h : isSelector c = true) : isEmoji c = false := by
  have hapart : ∀ r ∈ emojiRanges, CodeRange.isApart ⟨0xfe00, 0xfe0f⟩ r = true := by decide
  rw [isSelector, Bool.and_eq_true, decide_eq_true_eq, decide_eq_true_eq] at h
  exact CodeRange.covers_of_isApart hapart h.1 h.2

/-- A selector is listed with the emoji before it and not once more: the selectors at the beginning
of a text are left out. -/
theorem flatten_emojiOf_sublist (s : List Char) :
    (emojiOf s).flatten.Sublist (s.dropWhile isSelector) := by
  induction s with
  | nil => exact List.Sublist.refl []
  | cons c s ih =>
      have hrest : (emojiOf s).flatten.Sublist s := ih.trans (List.dropWhile_sublist isSelector)
      by_cases hv : isSelector c = true
      · rw [emojiOf_of_not (isEmoji_of_isSelector hv), List.dropWhile_cons, if_pos hv]
        exact ih
      · rw [List.dropWhile_cons, if_neg hv]
        by_cases hc : isEmoji c = true
        · rw [emojiOf_of_isEmoji hc, List.flatten_cons, List.cons_append]
          apply List.Sublist.cons_cons
          cases s with
          | nil => exact hrest
          | cons v s =>
              by_cases hv : isSelector v = true
              · rw [List.dropWhile_cons, if_pos hv] at ih
                rw [List.head?_cons, Option.filter_some_pos hv]
                exact (ih.trans (List.dropWhile_sublist isSelector)).cons_cons v
              · rw [Bool.not_eq_true] at hv
                rw [List.head?_cons, Option.filter_some_neg hv]
                exact hrest
        · rw [emojiOf_of_not (by simpa using hc)]
          exact hrest.cons c

/-- `items` are the emoji of `s` in their order, each with the selector right behind it. -/
structure AreEmojiOf (s : List Char) (items : List (List Char)) : Prop where
  /-- There is one item for each emoji. -/
  length_eq : items.length = s.countP isEmoji
  /-- No character of the text is in two items. -/
  sublist : items.flatten.Sublist s
  alone : ∀ before c after, s = before ++ c :: after → isEmoji c = true →
    (∀ v ∈ after.head?, isSelector v = false) → items[before.countP isEmoji]? = some [c]
  selected : ∀ before c v after, s = before ++ c :: v :: after → isEmoji c = true →
    isSelector v = true → items[before.countP isEmoji]? = some [c, v]

theorem areEmojiOf_emojiOf (s : List Char) : AreEmojiOf s (emojiOf s) where
  length_eq := length_emojiOf s
  sublist := (flatten_emojiOf_sublist s).trans (List.dropWhile_sublist isSelector)
  alone := by
    intro before c after hs hc hnone
    have hfilter : after.head?.filter isSelector = none := by
      rw [Option.filter_eq_none_iff]
      intro v hv
      simp [hnone v hv]
    rw [hs, getElem?_emojiOf hc, hfilter]
    rfl
  selected := by
    intro before c v after hs hc hv
    rw [hs, getElem?_emojiOf hc, List.head?_cons, Option.filter_some_pos hv]
    rfl

/-- An emoji with its selector, a selector without an emoji, and an emoji without a selector. -/
example : emojiOf "⬇\ufe0f \ufe0f📁".toList = ["⬇\ufe0f".toList, "📁".toList] := by decide

theorem containsEmoji_iff : containsEmoji s = true ↔ emojiOf s ≠ [] := by
  rw [containsEmoji, List.any_eq_true, ← List.countP_pos_iff, ← length_emojiOf, List.length_pos_iff]

theorem containsEmoji_eq_false (h : ∀ c ∈ s, isEmoji c = false) : containsEmoji s = false := by
  rw [containsEmoji, List.any_eq_false]
  intro c hc
  simp [h c hc]

/-! ## What is left without emoji -/

theorem isSpaced_stripEmoji (s : List Char) : IsSpaced (stripEmoji s) := isSpaced_trim_collapse _

theorem words_stripEmoji (s : List Char) :
    words isBlank (stripEmoji s) = words isBlank (s.filter fun c => !isPictorial c) := by
  rw [stripEmoji, trim, words_trimWhile, words_collapse (by decide)]
  rfl

theorem isEmoji_of_mem_stripEmoji (hc : c ∈ stripEmoji s) :
    isEmoji c = false ∧ isSelector c = false :=
  Bool.or_eq_false_iff.1 (isPictorial_of_mem_stripEmoji hc)

/-- There is nothing left to strip. -/
theorem stripEmoji_stripEmoji (s : List Char) : stripEmoji (stripEmoji s) = stripEmoji s := by
  rw [stripEmoji_eq fun c hc => isPictorial_of_mem_stripEmoji hc]
  exact isSpaced_iff.1 (isSpaced_stripEmoji s)

/-- An emoji is found exactly where one is listed, and the list tells all of them. Stripping leaves
the words of all other characters, with single blanks between them, and nothing to be found, listed
or stripped again. -/
theorem emoji_found_listed_stripped (s : List Char) :
    (containsEmoji s = true ↔ emojiOf s ≠ []) ∧ AreEmojiOf s (emojiOf s) ∧
      (∀ c ∈ stripEmoji s, isEmoji c = false ∧ isSelector c = false) ∧
      containsEmoji (stripEmoji s) = false ∧ emojiOf (stripEmoji s) = [] ∧
      words isBlank (stripEmoji s) =
        words isBlank (s.filter fun c => !(isEmoji c || isSelector c)) ∧
      IsSpaced (stripEmoji s) ∧ stripEmoji (stripEmoji s) = stripEmoji s := by
  have hstripped : ∀ c ∈ stripEmoji s, isEmoji c = false ∧ isSelector c = false :=
    fun c hc => isEmoji_of_mem_stripEmoji hc
  have hnone : containsEmoji (stripEmoji s) = false :=
    containsEmoji_eq_false fun c hc => (hstripped c hc).1
  have hlisted : emojiOf (stripEmoji s) = [] := by
    by_contra hne
    rw [containsEmoji_iff.2 hne] at hnone
    cases hnone
  exact ⟨containsEmoji_iff, areEmojiOf_emojiOf s, hstripped, hnone, hlisted, words_stripEmoji s,
    isSpaced_stripEmoji s, stripEmoji_stripEmoji s⟩

end FolderTag.Transform
