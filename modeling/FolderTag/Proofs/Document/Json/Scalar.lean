import FolderTag.Document.Json.Reader
import FolderTag.Document.Json.Writer
import FolderTag.Proofs.Outcome
import Mathlib.Tactic.SplitIfs

/-! # Texts and numbers in JSON

What is written for a text or a whole number is read back as the same text or number, whatever
follows it. -/

namespace FolderTag.Document.Json

open FolderTag.Text

variable {start fuel o n : Nat} {done rest : List Char}

/-! ## Texts -/

theorem length_hexDigits_of_lt (h : n < 32) : (hexDigits 4 n).length = 4 := by
  revert n
  decide

theorem fourHex?_hexDigits_of_lt (h : n < 32) : fourHex? (hexDigits 4 n) = some n := by
  revert n
  decide

theorem fourHex?_append {digits : List Char} (h : digits.length = 4) (rest : List Char) :
    fourHex? (digits ++ rest) = fourHex? digits := by
  match digits, h with
  | [_, _, _, _], _ => rfl

/-- A numeric escape of a control character is that character. -/
theorem codeEscape_hexDigits {c : Char} (hc : c.toNat < 32) (hrest : rest ≠ []) :
    codeEscape ⟨o, hexDigits 4 c.toNat ++ rest⟩ = .ok (c, 4) := by
  have hlength := length_hexDigits_of_lt hc
  have hmore : ¬ (hexDigits 4 c.toNat ++ rest).length ≤ 4 := by
    have := List.length_pos_iff.2 hrest
    rw [List.length_append]
    omega
  have hchar : codeChar c.toNat = c := by
    have hvalid : c.toNat.isValidChar := c.valid
    rw [codeChar, if_pos hvalid, Char.ofNat_toNat]
  rw [codeEscape]
  simp only [if_neg hmore, fourHex?_append hlength, fourHex?_hexDigits_of_lt hc]
  rw [if_neg (by omega), hchar]

/-- A character that needs no escape is read as it is. -/
theorem readText_plain {c : Char} (hquote : c ≠ '"') (hescape : c ≠ '\\') (hcontrol : ¬ c.toNat < 32) :
    readText start (fuel + 1) done ⟨o, c :: rest⟩ =
      readText start fuel (c :: done) ⟨o + 1, rest⟩ := by
  rw [readText]
  split
  case h_6 other heq =>
    obtain ⟨rfl, rfl⟩ := List.cons.inj heq
    rw [if_neg hcontrol]
    rfl
  all_goals simp_all

/-- One character is read with all that is written for it. -/
theorem readText_escapedChar (start fuel o : Nat) (done : List Char) (c : Char) (hrest : rest ≠ []) :
    ∃ o', readText start (fuel + 1) done ⟨o, escapedChar c ++ rest⟩ =
      readText start fuel (c :: done) ⟨o', rest⟩ := by
  obtain ⟨next, others, rfl⟩ := List.exists_cons_of_ne_nil hrest
  rw [escapedChar]
  split_ifs with hshort hn hr ht hf hb hcontrol
  · rcases hshort with rfl | rfl <;> exact ⟨_, rfl⟩
  · subst hn
    exact ⟨_, rfl⟩
  · subst hr
    exact ⟨_, rfl⟩
  · subst ht
    exact ⟨_, rfl⟩
  · subst hf
    exact ⟨_, rfl⟩
  · subst hb
    exact ⟨_, rfl⟩
  · have hdrop : (hexDigits 4 c.toNat ++ next :: others).drop 4 = next :: others :=
      List.drop_left' (length_hexDigits_of_lt hcontrol)
    refine ⟨o + 6, ?_⟩
    rw [List.cons_append, List.cons_append, readText]
    simp only [Place.skip, List.drop_succ_cons, List.drop_zero, codeEscape_hexDigits hcontrol hrest,
      ok_bind]
    exact congrArg (fun rest => readText start fuel (c :: done) ⟨o + 6, rest⟩) hdrop
  · exact ⟨o + 1, readText_plain (fun h => hshort (.inl h)) (fun h => hshort (.inr h)) hcontrol⟩

/-- A text is read up to the quote behind it. -/
theorem readText_flatMap (start fuel o : Nat) (done s rest : List Char) (hfuel : s.length < fuel) :
    ∃ o', readText start fuel done ⟨o, s.flatMap escapedChar ++ '"' :: rest⟩ =
      .ok (String.ofList (done.reverse ++ s), ⟨o', rest⟩) := by
  induction s generalizing fuel done o with
  | nil =>
      obtain ⟨fuel, rfl⟩ := Nat.exists_eq_add_one.2 hfuel
      exact ⟨o + 1, by simp [readText, Place.skip]⟩
  | cons c s ih =>
      obtain ⟨fuel, rfl⟩ := Nat.exists_eq_add_one.2 (Nat.zero_lt_of_lt hfuel)
      rw [List.flatMap_cons, List.append_assoc]
      obtain ⟨next, hstep⟩ := readText_escapedChar start fuel o done c
        (List.append_ne_nil_of_right_ne_nil (s.flatMap escapedChar) (List.cons_ne_nil '"' rest))
      obtain ⟨o', hread⟩ := ih fuel next (c :: done) (by simpa using hfuel)
      exact ⟨o', by simpa [hstep] using hread⟩

theorem length_escapedChar_pos (c : Char) : 0 < (escapedChar c).length := by
  rw [escapedChar]
  split_ifs <;> simp

theorem length_le_length_flatMap (s : List Char) : s.length ≤ (s.flatMap escapedChar).length := by
  induction s with
  | nil => simp
  | cons c s ih =>
      have hpos := length_escapedChar_pos c
      rw [List.flatMap_cons, List.length_append, List.length_cons]
      omega

/-- The fuel for a text is the number of characters from its first quote on. -/
theorem exists_readText_textForm (s : String) (o : Nat) (rest : List Char) :
    ∃ o', readText o (textForm s ++ rest).length [] (Place.skip ⟨o, textForm s ++ rest⟩ 1) =
      .ok (s, ⟨o', rest⟩) := by
  have hfuel : s.toList.length < (textForm s ++ rest).length := by
    have hle := length_le_length_flatMap s.toList
    simp only [textForm, List.cons_append, List.append_assoc, List.length_cons, List.length_append]
    omega
  obtain ⟨o', h⟩ := readText_flatMap o _ (o + 1) [] s.toList rest hfuel
  refine ⟨o', ?_⟩
  simpa [textForm, Place.skip] using h

/-! ## Numbers -/

/-- What stands behind a value in a document that is written: a comma or a line break. -/
def Follows (rest : List Char) : Prop := rest.head? = some ',' ∨ rest.head? = some '\n'

theorem ofDigits_map_toNat (digits : List Char) :
    Number.ofDigits (digits.map fun d => d.toNat - 48) = Nat.ofDigitChars 10 digits 0 := by
  rw [Number.ofDigits, List.foldl_map, Nat.ofDigitChars_eq_foldl]
  rfl

theorem exists_toDigits_eq_cons (n : Nat) :
    ∃ d ds, Nat.toDigits 10 n = d :: ds ∧ d.isDigit = true := by
  obtain ⟨d, ds, h⟩ := List.exists_cons_of_ne_nil (Nat.toDigits_ne_nil (n := n) (b := 10))
  exact ⟨d, ds, h, Nat.isDigit_of_mem_toDigits (b := 10) (n := n) (by decide) (by decide)
    (h ▸ List.mem_cons_self ..)⟩

theorem head?_toDigits_of_pos (hn : 0 < n) : (Nat.toDigits 10 n).head? ≠ some '0' := by
  induction n using Nat.strongRecOn with
  | ind n ih =>
      rw [Nat.toDigits_eq_if (by decide)]
      by_cases hlt : n < 10
      · have hdigit : ∀ d < 10, 0 < d → [d.digitChar].head? ≠ some '0' := by decide
        rw [if_pos hlt]
        exact hdigit n hlt hn
      · rw [if_neg hlt, List.head?_append, Option.or_of_isSome (by simp)]
        exact ih (n / 10) (by omega) (by omega)

section

variable (hrest : Follows rest)

include hrest

theorem takeWhile_toDigits (n : Nat) :
    (Nat.toDigits 10 n ++ rest).takeWhile Char.isDigit = Nat.toDigits 10 n := by
  have hnone : rest.takeWhile Char.isDigit = [] := by
    rcases rest with _ | ⟨c, rest⟩
    · rfl
    · rcases hrest with h | h <;> · rw [Option.some.inj h]; rfl
  rw [List.takeWhile_append_of_pos fun c hc => Nat.isDigit_of_mem_toDigits (by decide) (by decide) hc,
    hnone, List.append_nil]

/-- All digits of a number are read, and no zero stands before them. -/
theorem leadingDigits (n : Nat) :
    (if (Nat.toDigits 10 n ++ rest).head? = some '0' then ['0']
      else (Nat.toDigits 10 n ++ rest).takeWhile Char.isDigit) = Nat.toDigits 10 n := by
  rcases Nat.eq_zero_or_pos n with rfl | hn
  · rfl
  · have hhead : (Nat.toDigits 10 n ++ rest).head? ≠ some '0' := by
      rw [List.head?_append, Option.or_of_isSome (by simp)]
      exact head?_toDigits_of_pos hn
    rw [if_neg hhead, takeWhile_toDigits hrest]

theorem fractionDigits_eq_nil : fractionDigits rest = [] := by
  rcases rest with _ | ⟨c, rest⟩
  · rfl
  · rcases hrest with h | h <;> · rw [Option.some.inj h]; rfl

theorem exponentPart?_eq_none : exponentPart? rest = none := by
  rcases rest with _ | ⟨c, rest⟩
  · rfl
  · rcases hrest with h | h <;> · rw [Option.some.inj h]; rfl

/-- A whole number is read from its sign and its digits. -/
theorem readNumber_digits (o : Nat) (negative : Bool)
    (hlimit : (Nat.toDigits 10 n).length ≤ Number.digitLimit) :
    ∃ o', readNumber ⟨o, (if negative then ['-'] else []) ++ Nat.toDigits 10 n ++ rest⟩ =
      .ok (.int (if negative then -(n : Int) else n), ⟨o', rest⟩) := by
  have hne : Nat.toDigits 10 n ≠ [] := Nat.toDigits_ne_nil
  have hlong : ¬ Number.digitLimit < (Nat.toDigits 10 n).length := by omega
  have hvalue : Number.ofDigits ((Nat.toDigits 10 n).map fun d => d.toNat - 48) = n := by
    rw [ofDigits_map_toNat, Nat.ofDigitChars_ten_toDigits]
  have hread : ∀ text, (text.head? == some '-') = negative →
      (if negative then text.drop 1 else text) = Nat.toDigits 10 n ++ rest →
      readNumber ⟨o, text⟩ = .ok (.int (if negative then -(n : Int) else n),
        Place.skip ⟨o, text⟩ ((if negative then 1 else 0) + (Nat.toDigits 10 n).length)) := by
    intro text hsign hbody
    simp only [readNumber, hsign, hbody, leadingDigits hrest, if_neg hne, List.drop_left,
      fractionDigits_eq_nil hrest, ↓reduceIte, List.drop_zero, exponentPart?_eq_none hrest,
      Option.isNone_none, and_self, if_neg hlong, hvalue, Option.map_none, Option.getD_none,
      Nat.add_zero]
  cases negative with
  | true =>
      refine ⟨o + (1 + (Nat.toDigits 10 n).length), (hread _ rfl rfl).trans ?_⟩
      simp [Place.skip, Nat.add_comm 1]
  | false =>
      refine ⟨o + (Nat.toDigits 10 n).length, (hread _ ?_ rfl).trans ?_⟩
      · obtain ⟨d, ds, hcons, hdigit⟩ := exists_toDigits_eq_cons n
        have hminus : d ≠ '-' := fun h => by simp [h] at hdigit
        simpa [hcons] using hminus
      · simp [Place.skip]

theorem readNumber_intText {m : Int}
    (hlimit : (Nat.toDigits 10 m.natAbs).length ≤ Number.digitLimit) :
    ∃ o', readNumber ⟨o, intText m ++ rest⟩ = .ok (.int m, ⟨o', rest⟩) := by
  obtain ⟨o', h⟩ := readNumber_digits hrest o (decide (m < 0)) hlimit
  refine ⟨o', ?_⟩
  by_cases hm : m < 0
  · have hvalue : (-(m.natAbs : Int)) = m := by omega
    rw [decide_eq_true hm, if_pos rfl, if_pos rfl, hvalue] at h
    rwa [intText, if_pos hm]
  · have hvalue : (m.natAbs : Int) = m := by omega
    rw [decide_eq_false hm, if_neg Bool.false_ne_true, if_neg Bool.false_ne_true, hvalue] at h
    rwa [intText, if_neg hm]

end

end FolderTag.Document.Json
