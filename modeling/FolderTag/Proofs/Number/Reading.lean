import FolderTag.Number.Reading
import FolderTag.Proofs.Text.Blank

/-! # What whole numbers are written with

A text is read as a whole number only if it holds nothing but digits, underscores, signs and the
white space around them. -/

namespace FolderTag.Number

open FolderTag.Text

variable {c : Char} {cs : List Char} {ds : List Nat}

/-- The characters of a whole number without the white space around it. -/
def isNumberPart (c : Char) : Bool := isDecimal c || c == '_' || c == '-' || c == '+'

theorem isNumberPart_of_value {d : Nat} (h : decimalValue? c = some d) :
    isNumberPart c = true := by
  simp [isNumberPart, isDecimal, h]

theorem forall_isNumberPart_of_more (h : readMoreDigits cs = some (ds, [])) :
    ∀ c ∈ cs, isNumberPart c = true := by
  fun_induction readMoreDigits cs generalizing ds with
  | case1 => simp
  | case2 c cs d hd ih =>
      obtain ⟨⟨ds', rest⟩, hmore, hrest⟩ := Option.map_eq_some_iff.1 h
      cases hrest
      exact List.forall_mem_cons.2
        ⟨by decide, List.forall_mem_cons.2 ⟨isNumberPart_of_value hd, ih hmore⟩⟩
  | case3 => cases h
  | case4 => cases h
  | case5 c cs _ _ d hd ih =>
      obtain ⟨⟨ds', rest⟩, hmore, hrest⟩ := Option.map_eq_some_iff.1 h
      cases hrest
      exact List.forall_mem_cons.2 ⟨isNumberPart_of_value hd, ih hmore⟩
  | case6 => cases h

theorem forall_isNumberPart_of_digits (h : readDigits cs = some (ds, [])) :
    ∀ c ∈ cs, isNumberPart c = true := by
  cases cs with
  | nil => simp
  | cons c cs =>
      rw [readDigits] at h
      split at h
      · rename_i d hd
        obtain ⟨⟨ds', rest⟩, hmore, hrest⟩ := Option.map_eq_some_iff.1 h
        cases hrest
        exact List.forall_mem_cons.2 ⟨isNumberPart_of_value hd, forall_isNumberPart_of_more hmore⟩
      · cases h

theorem forall_isNumberPart_of_sign (h : ∀ c ∈ (readSign cs).2, isNumberPart c = true) :
    ∀ c ∈ cs, isNumberPart c = true := by
  unfold readSign at h
  split at h
  · exact List.forall_mem_cons.2 ⟨by decide, h⟩
  · exact List.forall_mem_cons.2 ⟨by decide, h⟩
  · exact h

theorem isNumberPart_of_readInt? {n : Int} (h : readInt? cs = some n) :
    ∀ c ∈ cs, isNumberBlank c = true ∨ isNumberPart c = true := by
  intro c hc
  rw [or_iff_not_imp_left, Bool.not_eq_true]
  intro hblank
  have htrim := mem_trimWhile hc hblank
  rw [readInt?] at h
  dsimp only at h
  split at h
  · rename_i ds hdigits
    exact forall_isNumberPart_of_sign (forall_isNumberPart_of_digits hdigits) c htrim
  · cases h

end FolderTag.Number
