import FolderTag.Proofs.Transform.Separated
import FolderTag.Transform.NumberPrefix

/-! # Numbers that are written and read

A number that is written before a name is read back with that name: the separator that was written is
the one that is found. What is read from a text can be written, so that a text whose number has been
normalized stays as it is. -/

namespace FolderTag.Transform

open FolderTag.Text

variable {s line rest number : List Char} {n : Numbered}

/-! ## The line behind a separator -/

theorem forall_bne_of_newline_notMem (h : '\n' ∉ s) : ∀ c ∈ s, (c != '\n') = true := by
  intro c hc
  rw [bne_iff_ne]
  rintro rfl
  exact h hc

theorem lastLine?_of_notMem (hne : s ≠ []) (h : '\n' ∉ s) : lastLine? s = some s := by
  have hplain := forall_bne_of_newline_notMem h
  have hline : s.takeWhile (· != '\n') = s := List.takeWhile_eq_self_iff.2 hplain
  have hrest : s.dropWhile (· != '\n') = [] := List.dropWhile_eq_nil_iff.2 hplain
  simp [lastLine?, hline, hrest, hne]

theorem newline_notMem_of_lastLine (h : lastLine? s = some line) : '\n' ∉ line := by
  rw [lastLine?] at h
  split_ifs at h
  rw [← Option.some.inj h]
  intro hmem
  have hplain := List.all_eq_true.1 (List.all_takeWhile (p := (· != '\n')) (l := s)) '\n' hmem
  simp at hplain

theorem prefix_of_lastLine (h : lastLine? s = some line) : line <+: s := by
  rw [lastLine?] at h
  split_ifs at h
  rw [← Option.some.inj h]
  exact List.takeWhile_prefix _

/-- As much white space is left out as leaves a line. -/
theorem exists_suffix_of_lineBehindBlanks (h : lineBehindBlanks? s = some line) :
    ∃ t, t <:+ s ∧ lastLine? t = some line := by
  induction s with
  | nil => cases h
  | cons c s ih =>
      rw [lineBehindBlanks?] at h
      split_ifs at h
      · rcases Option.or_eq_some_iff.1 h with h | ⟨-, h⟩
        · obtain ⟨t, ht, hline⟩ := ih h
          exact ⟨t, ht.trans (List.suffix_cons c s), hline⟩
        · exact ⟨c :: s, List.suffix_refl _, h⟩
      · exact ⟨c :: s, List.suffix_refl _, h⟩

theorem infix_of_lineBehindBlanks (h : lineBehindBlanks? s = some line) : line <:+: s := by
  obtain ⟨t, ht, hline⟩ := exists_suffix_of_lineBehindBlanks h
  exact (prefix_of_lastLine hline).isInfix.trans ht.isInfix

theorem newline_notMem_of_lineBehindBlanks (h : lineBehindBlanks? s = some line) :
    '\n' ∉ line := by
  obtain ⟨t, -, hline⟩ := exists_suffix_of_lineBehindBlanks h
  exact newline_notMem_of_lastLine hline

/-- Of a single line only white space is left out. -/
theorem exists_lineBehindBlanks? (hne : s ≠ []) (h : '\n' ∉ s) :
    ∃ line, lineBehindBlanks? s = some line ∧ trim line = trim s := by
  induction s with
  | nil => exact absurd rfl hne
  | cons c s ih =>
      rw [lineBehindBlanks?, lastLine?_of_notMem hne h]
      by_cases hc : isBlank c = true
      · rw [if_pos hc]
        by_cases hs : s = []
        · exact ⟨c :: s, by simp [hs, lineBehindBlanks?], rfl⟩
        · obtain ⟨line, hline, htrim⟩ := ih hs fun hmem => h (List.mem_cons_of_mem c hmem)
          refine ⟨line, ?_, ?_⟩
          · rw [hline, Option.some_or]
          · rw [htrim, trim_cons_of_isBlank hc]
      · exact ⟨c :: s, if_neg hc, rfl⟩

/-! ## Where the name stands -/

theorem exists_of_behindHyphen (h : behindHyphen? s = some line) :
    ∃ c rest, isSeparator c = true ∧ (c :: rest) <:+ s ∧ lineBehindBlanks? rest = some line := by
  rw [behindHyphen?] at h
  split at h
  next rest hrest =>
    exact ⟨'-', rest, by decide, hrest ▸ List.dropWhile_suffix isBlank, h⟩
  next => cases h

/-- A hyphen that is not there cannot be found behind a blank. -/
theorem behindHyphen?_eq_none (hblank : ∀ c ∈ s.head?, isBlank c = false)
    (h : s.head? ≠ some '-') : behindHyphen? (' ' :: s) = none := by
  have hdrop : (' ' :: s).dropWhile isBlank = s := by
    rw [List.dropWhile_cons, if_pos (by decide), dropWhile_of_head hblank]
  rw [behindHyphen?, hdrop]
  split
  next rest => exact absurd rfl h
  next => rfl

theorem behindHyphen?_hyphen (s : List Char) :
    behindHyphen? (' ' :: '-' :: s) = lineBehindBlanks? s := rfl

theorem exists_of_behindDot (h : behindDot? s = some line) :
    ∃ c rest, isSeparator c = true ∧ (c :: rest) <:+ s ∧ lineBehindBlanks? rest = some line := by
  simp only [behindDot?] at h
  split at h
  next c cs hbehind =>
    split_ifs at h with hc
    have hsuffix : (c :: cs) <:+ s := by
      rw [← hbehind]
      split
      · exact List.suffix_cons '.' _
      · exact List.suffix_refl s
    exact ⟨c, cs, isSeparator_of_isBlank hc, hsuffix, h⟩
  next => cases h

namespace Numbered

/-- The number is all digits at the beginning, and the name stands behind a separator. -/
theorem exists_of_ofText? (h : ofText? s = some n) :
    ∃ c rest line, isSeparator c = true ∧ (c :: rest) <:+ s ∧ lineBehindBlanks? rest = some line ∧
      s.takeWhile Char.isDigit ≠ [] ∧ n = ⟨s.takeWhile Char.isDigit, trim line⟩ := by
  rw [ofText?] at h
  split_ifs at h with hnone
  obtain ⟨line, hline, rfl⟩ := Option.map_eq_some_iff.1 h
  have hbehind := (Option.or_eq_some_iff.1 hline).elim exists_of_behindHyphen
    fun h => exists_of_behindDot h.2
  obtain ⟨c, rest, hc, hrest, hline⟩ := hbehind
  exact ⟨c, rest, line, hc, hrest.trans (List.dropWhile_suffix Char.isDigit), hline,
    by simpa using hnone, rfl⟩

/-! ## Reading what is written -/

/-- A number of at least one digit and a name in one line without white space around it. -/
structure IsPlain (n : Numbered) : Prop where
  number_ne_nil : n.number ≠ []
  isDigit : ∀ c ∈ n.number, c.isDigit = true
  isTrimmed : IsTrimmed n.name
  newline_notMem : '\n' ∉ n.name

theorem ofText?_append (hne : number ≠ []) (hnumber : ∀ c ∈ number, c.isDigit = true)
    (hrest : ∀ c ∈ rest.head?, c.isDigit = false) :
    ofText? (number ++ rest) =
      ((behindHyphen? rest).or (behindDot? rest)).map fun line => ⟨number, trim line⟩ := by
  simp only [ofText?, takeWhile_append_of_head hnumber hrest,
    dropWhile_append_of_head hnumber hrest]
  rw [if_neg (by simpa using hne)]

/-- What is read is plain. -/
theorem isPlain_of_ofText? (h : ofText? s = some n) : n.IsPlain := by
  obtain ⟨c, rest, line, -, -, hline, hne, rfl⟩ := exists_of_ofText? h
  have hbreak := newline_notMem_of_lineBehindBlanks hline
  constructor
  · exact hne
  · exact fun c hc => List.all_eq_true.1 List.all_takeWhile c hc
  · exact isTrimmed_trim line
  · exact fun hmem => hbreak (mem_of_mem_trim hmem)

namespace IsPlain

variable (h : n.IsPlain)

include h

theorem ofText?_hyphen : ofText? (n.toText .hyphen) = some n := by
  obtain ⟨line, hline, htrim⟩ := exists_lineBehindBlanks? (s := ' ' :: n.name) (by simp)
    (by simpa using h.newline_notMem)
  have hbehind : behindHyphen? (" - ".toList ++ n.name) = some line := hline
  rw [trim_cons_of_isBlank (by decide), trim_of_isTrimmed h.isTrimmed] at htrim
  rw [toText, List.append_assoc, ofText?_append h.number_ne_nil h.isDigit (by simp), hbehind,
    Option.some_or, Option.map_some, htrim]

theorem ofText?_plain_of_some (hline : behindHyphen? (' ' :: n.name) = some line) :
    ofText? (n.toText .plain) = some ⟨n.number, trim line⟩ := by
  rw [toText, ofText?_append h.number_ne_nil h.isDigit (by simp), hline, Option.some_or,
    Option.map_some]

theorem ofText?_plain_of_none (hne : n.name ≠ []) (hnone : behindHyphen? (' ' :: n.name) = none) :
    ofText? (n.toText .plain) = some n := by
  obtain ⟨line, hline, htrim⟩ := exists_lineBehindBlanks? hne h.newline_notMem
  have hdot : behindDot? (' ' :: n.name) = some line := hline
  rw [trim_of_isTrimmed h.isTrimmed] at htrim
  rw [toText, ofText?_append h.number_ne_nil h.isDigit (by simp), hnone, hdot, Option.none_or,
    Option.map_some, htrim]

/-- Behind a blank alone, a hyphen that a name begins with is taken for a separator if there is
something behind it. -/
theorem ofText?_plain_iff (hne : n.name ≠ []) :
    ofText? (n.toText .plain) = some n ↔ (n.name.head? = some '-' → n.name = ['-']) := by
  by_cases hhead : n.name.head? = some '-'
  · obtain ⟨cs, hname⟩ := List.head?_eq_some_iff.1 hhead
    by_cases hcs : cs = []
    · have hnone : behindHyphen? (' ' :: n.name) = none := by
        rw [hname, hcs]
        rfl
      simp [h.ofText?_plain_of_none hne hnone, hname, hcs]
    · have hbreak : '\n' ∉ cs := by
        intro hmem
        exact h.newline_notMem (hname ▸ List.mem_cons_of_mem '-' hmem)
      obtain ⟨line, hline, htrim⟩ := exists_lineBehindBlanks? hcs hbreak
      have hread : ofText? (n.toText .plain) = some ⟨n.number, trim line⟩ :=
        h.ofText?_plain_of_some (by rw [hname, behindHyphen?_hyphen, hline])
      -- What is read as the name is shorter than the name that was written.
      have hshort : trim line ≠ n.name := by
        intro hsame
        have hlength := (infix_trimWhile isBlank cs).length_le
        rw [← trim, ← htrim, hsame, hname, List.length_cons] at hlength
        omega
      refine iff_of_false ?_ ?_
      · intro hsame
        rw [hread] at hsame
        exact hshort (congrArg Numbered.name (Option.some.inj hsame))
      · simp [hname, hcs]
  · have hnone := behindHyphen?_eq_none h.isTrimmed.head hhead
    simp [h.ofText?_plain_of_none hne hnone, hhead]

end IsPlain

/-- A number that is written before a name is read back with that name. If there is only a blank
between them, this is so exactly if the name does not begin with a hyphen or is nothing but one. -/
theorem ofText?_toText {n : Numbered} (h : n.IsPlain) (hne : n.name ≠ []) :
    ofText? (n.toText .hyphen) = some n ∧
      (ofText? (n.toText .plain) = some n ↔ (n.name.head? = some '-' → n.name = ['-'])) :=
  ⟨h.ofText?_hyphen, h.ofText?_plain_iff hne⟩

/-- A name that begins with a digit and has points, hyphens and a number in it. -/
theorem ofText?_toText_digits :
    let n : Numbered := ⟨"01".toList, "2.0-beta - 3.".toList⟩
    n.IsPlain ∧ n.name ≠ [] ∧ n.toText .hyphen = "01 - 2.0-beta - 3.".toList ∧
      n.toText .plain = "01 2.0-beta - 3.".toList ∧
      ofText? "01 - 2.0-beta - 3.".toList = some n ∧
      ofText? "01 2.0-beta - 3.".toList = some n := by
  intro n
  have hplain : n.IsPlain := ⟨by decide, by simp [n], by decide, by decide⟩
  have hname : n.name ≠ [] := by decide
  obtain ⟨hhyphen, hblank⟩ := ofText?_toText hplain hname
  have hhead : n.name.head? = some '-' → n.name = ['-'] := by decide
  exact ⟨hplain, hname, rfl, rfl, hhyphen, hblank.2 hhead⟩

end Numbered

/-! ## Normalizing -/

theorem length_padNumber (width : Nat) (number : List Char) :
    (padNumber width number).length = max width number.length := by
  rw [padNumber, List.length_append, List.length_replicate]
  omega

theorem padNumber_padNumber (width : Nat) (number : List Char) :
    padNumber width (padNumber width number) = padNumber width number := by
  have hlong : width - (padNumber width number).length = 0 := by
    rw [length_padNumber]
    omega
  rw [padNumber, hlong, List.replicate_zero, List.nil_append]

/-- Leading zeros do not count. -/
theorem ofDigitChars_padNumber (width : Nat) (number : List Char) :
    Nat.ofDigitChars 10 (padNumber width number) 0 = Nat.ofDigitChars 10 number 0 := by
  have hzeros : ∀ k, Nat.ofDigitChars 10 (List.replicate k '0') 0 = 0 := by
    intro k
    induction k with
    | zero => rfl
    | succ k ih => exact ih
  rw [padNumber, Nat.ofDigitChars_append, hzeros]

theorem Numbered.IsPlain.pad (h : n.IsPlain) (width : Nat) :
    { n with number := padNumber width n.number : Numbered }.IsPlain where
  number_ne_nil := List.append_ne_nil_of_right_ne_nil _ h.number_ne_nil
  isDigit := by
    intro c hc
    rcases List.mem_append.1 hc with hc | hc
    · rw [List.eq_of_mem_replicate hc]
      decide
    · exact h.isDigit c hc
  isTrimmed := h.isTrimmed
  newline_notMem := h.newline_notMem

theorem normalizeNumber_of_ofText? (h : Numbered.ofText? s = some n) (width : Nat) :
    normalizeNumber width s =
      { n with number := padNumber width n.number : Numbered }.toText .hyphen := by
  rw [normalizeNumber, h]

/-- A normalized number is read as it was written. -/
theorem ofText?_normalizeNumber (h : Numbered.ofText? s = some n) (width : Nat) :
    Numbered.ofText? (normalizeNumber width s) =
      some { n with number := padNumber width n.number } := by
  rw [normalizeNumber_of_ofText? h]
  exact ((Numbered.isPlain_of_ofText? h).pad width).ofText?_hyphen

theorem normalizeNumber_normalizeNumber (width : Nat) (s : List Char) :
    normalizeNumber width (normalizeNumber width s) = normalizeNumber width s := by
  cases hs : Numbered.ofText? s with
  | none =>
      have hkept : normalizeNumber width s = s := by rw [normalizeNumber, hs]
      rw [hkept, hkept]
  | some n =>
      rw [normalizeNumber_of_ofText? (ofText?_normalizeNumber hs width),
        normalizeNumber_of_ofText? hs, padNumber_padNumber]

/-- A normalized text stays as it is. If there is a number in front of the text, there is one in
front of the normalized text, of the same value and with at least as many digits as asked for, with
a hyphen and the same name behind it. -/
theorem normalizeNumber_twice (width : Nat) (s : List Char) :
    normalizeNumber width (normalizeNumber width s) = normalizeNumber width s ∧
      ∀ n, Numbered.ofText? s = some n →
        ∃ m, Numbered.ofText? (normalizeNumber width s) = some m ∧ m.name = n.name ∧
          Nat.ofDigitChars 10 m.number 0 = Nat.ofDigitChars 10 n.number 0 ∧
          m.number.length = max width n.number.length ∧
          normalizeNumber width s = m.toText .hyphen := by
  refine ⟨normalizeNumber_normalizeNumber width s, fun n hn => ?_⟩
  exact ⟨_, ofText?_normalizeNumber hn width, rfl, ofDigitChars_padNumber width n.number,
    length_padNumber width n.number, normalizeNumber_of_ofText? hn width⟩

/-- A point behind the number, a name that begins with a hyphen, and a line break at the end. -/
theorem normalizeNumber_twice_point :
    Numbered.ofText? "7.\t -of 12 \n".toList = some ⟨"7".toList, "-of 12".toList⟩ ∧
      normalizeNumber 3 "7.\t -of 12 \n".toList = "007 - -of 12".toList ∧
      normalizeNumber 3 "007 - -of 12".toList = "007 - -of 12".toList ∧
      ∃ m, Numbered.ofText? "007 - -of 12".toList = some m ∧ m.name = "-of 12".toList ∧
        Nat.ofDigitChars 10 m.number 0 = 7 ∧ m.number.length = 3 := by
  have hread : Numbered.ofText? "7.\t -of 12 \n".toList =
      some ⟨"7".toList, "-of 12".toList⟩ := by decide
  have hnormal : normalizeNumber 3 "7.\t -of 12 \n".toList = "007 - -of 12".toList := by decide
  obtain ⟨hkept, hall⟩ := normalizeNumber_twice 3 "7.\t -of 12 \n".toList
  obtain ⟨m, hm, hname, hvalue, hlength, -⟩ := hall _ hread
  rw [hnormal] at hkept hm
  exact ⟨hread, hnormal, hkept, m, hm, hname, hvalue, hlength⟩

end FolderTag.Transform
