import FolderTag.Text.Replace
import Mathlib.Data.List.Infix

/-! # Replacing a word in a text of parts

A word is replaced where it stands, and a part in which the word begins nowhere is kept. -/

namespace FolderTag.Text

/-- Nowhere in `s`, followed by `rest`, does `word` begin. -/
def BeginsNowhere (word s rest : List Char) : Prop :=
  ∀ t, t <:+ s → t ≠ [] → ¬ word <+: t ++ rest

theorem BeginsNowhere.tail {word s rest : List Char} {c : Char}
    (h : BeginsNowhere word (c :: s) rest) : BeginsNowhere word s rest :=
  fun t ht => h t (ht.trans (List.suffix_cons c s))

theorem BeginsNowhere.cons {word s rest : List Char} {c : Char} (hc : ¬ word <+: c :: (s ++ rest))
    (hs : BeginsNowhere word s rest) : BeginsNowhere word (c :: s) rest := by
  intro t ht hne
  rcases List.suffix_cons_iff.1 ht with rfl | ht
  · exact hc
  · exact hs t ht hne

theorem beginsNowhere_nil (word rest : List Char) : BeginsNowhere word [] rest :=
  fun _ ht hne => absurd (List.suffix_nil.1 ht) hne

theorem BeginsNowhere.append {word a b rest : List Char} (ha : BeginsNowhere word a (b ++ rest))
    (hb : BeginsNowhere word b rest) : BeginsNowhere word (a ++ b) rest := by
  induction a with
  | nil => exact hb
  | cons c a ih =>
      refine (ih ha.tail).cons ?_
      have hc := ha (c :: a) List.suffix_rfl (List.cons_ne_nil c a)
      rwa [List.append_assoc]

/-- A word begins nowhere in a part without its first character. -/
theorem beginsNowhere_of_notMem {mark : Char} {s : List Char} (h : mark ∉ s)
    (word rest : List Char) : BeginsNowhere (mark :: word) s rest := by
  induction s with
  | nil => exact beginsNowhere_nil _ rest
  | cons c s ih =>
      simp only [List.mem_cons, not_or] at h
      exact (ih h.2).cons fun hprefix => h.1 (List.cons_prefix_cons.1 hprefix).1

variable {old : List Char}

/-- A word at the beginning is replaced. -/
theorem replaceAll_word_append (hold : old ≠ []) (new rest : List Char) :
    replaceAll old new (old ++ rest) = new ++ replaceAll old new rest := by
  cases old with
  | nil => exact absurd rfl hold
  | cons c cs =>
      have hprefix : (c :: cs).isPrefixOf (c :: (cs ++ rest)) = true :=
        List.isPrefixOf_iff_prefix.2 (List.prefix_append (c :: cs) rest)
      rw [List.cons_append, replaceAll, if_pos ⟨hold, hprefix⟩]
      simp

/-- A part in which the word begins nowhere is kept. -/
theorem replaceAll_append_of_beginsNowhere {s rest : List Char} (new : List Char)
    (h : BeginsNowhere old s rest) :
    replaceAll old new (s ++ rest) = s ++ replaceAll old new rest := by
  induction s with
  | nil => rfl
  | cons c s ih =>
      have hprefix : ¬ (old ≠ [] ∧ old.isPrefixOf (c :: (s ++ rest)) = true) := by
        rintro ⟨-, hp⟩
        exact h (c :: s) List.suffix_rfl (List.cons_ne_nil c s) (List.isPrefixOf_iff_prefix.1 hp)
      rw [List.cons_append, replaceAll, if_neg hprefix, ih h.tail, List.cons_append]

end FolderTag.Text
