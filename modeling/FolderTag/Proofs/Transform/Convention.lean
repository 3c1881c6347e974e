import FolderTag.Proofs.Text.Blank
import FolderTag.Proofs.Text.CaseMapping
import FolderTag.Transform.Convention

/-! # Titles come back from separated words

Separating the words of a title loses nothing that writing a title does not bring back. -/

namespace FolderTag.Transform

open FolderTag.Text

/-! ## Words and titles -/

/-- A capital letter with small letters and digits behind it. -/
def IsWord (w : List Char) : Prop :=
  ∃ c cs, w = c :: cs ∧ c.isUpper = true ∧ ∀ d ∈ cs, d.isLower = true ∨ d.isDigit = true

/-- Words with single blanks between them. -/
def IsTitle (s : List Char) : Prop :=
  ∃ words, words ≠ [] ∧ (∀ w ∈ words, IsWord w) ∧ s = joinWith [' '] words

/-- A word without its capital. -/
def lowered (w : List Char) : List Char := w.map Char.toLower

variable {c : Char} {w : List Char} {ws : List (List Char)}

theorem isAlphanum_of_isUpper (h : c.isUpper = true) : c.isAlphanum = true := by
  change ((c.isUpper || c.isLower) || c.isDigit) = true
  rw [h, Bool.true_or, Bool.true_or]

theorem isAlphanum_of_small (h : c.isLower = true ∨ c.isDigit = true) : c.isAlphanum = true := by
  change ((c.isUpper || c.isLower) || c.isDigit) = true
  rcases h with h | h
  · rw [h, Bool.or_true, Bool.true_or]
  · rw [h, Bool.or_true]

theorem isUpper_of_small (h : c.isLower = true ∨ c.isDigit = true) : c.isUpper = false :=
  forall_ascii (p := fun c => c.isLower = true ∨ c.isDigit = true → c.isUpper = false)
    (by decide +kernel) (toNat_lt_of_isAlphanum (isAlphanum_of_small h)) h

theorem toLower_of_small (h : c.isLower = true ∨ c.isDigit = true) : c.toLower = c :=
  forall_ascii (p := fun c => c.isLower = true ∨ c.isDigit = true → c.toLower = c)
    (by decide +kernel) (toNat_lt_of_isAlphanum (isAlphanum_of_small h)) h

theorem isLower_toLower (h : c.isUpper = true) : c.toLower.isLower = true :=
  forall_ascii (p := fun c => c.isUpper = true → c.toLower.isLower = true)
    (by decide +kernel) (toNat_lt_of_isAlphanum (isAlphanum_of_isUpper h)) h

theorem capital_toLower (h : c.isUpper = true) : capital c.toLower = [c] :=
  forall_ascii (p := fun c => c.isUpper = true → capital c.toLower = [c])
    (by decide +kernel) (toNat_lt_of_isAlphanum (isAlphanum_of_isUpper h)) h

namespace IsWord

theorem ne_nil (h : IsWord w) : w ≠ [] := by
  obtain ⟨c, cs, rfl, -⟩ := h
  exact List.cons_ne_nil c cs

theorem isAlphanum (h : IsWord w) : ∀ d ∈ w, d.isAlphanum = true := by
  obtain ⟨c, cs, rfl, hc, hcs⟩ := h
  intro d hd
  rcases List.mem_cons.1 hd with rfl | hd
  · exact isAlphanum_of_isUpper hc
  · exact isAlphanum_of_small (hcs d hd)

theorem lowered_cons {cs : List Char} (hcs : ∀ d ∈ cs, d.isLower = true ∨ d.isDigit = true) :
    lowered (c :: cs) = c.toLower :: cs := by
  rw [lowered, List.map_cons, List.map_congr_left fun d hd => toLower_of_small (hcs d hd),
    List.map_id']

/-- A word without its capital has small letters and digits only. -/
theorem small (h : IsWord w) : ∀ d ∈ lowered w, d.isLower = true ∨ d.isDigit = true := by
  obtain ⟨c, cs, rfl, hc, hcs⟩ := h
  intro d hd
  rw [lowered_cons hcs] at hd
  rcases List.mem_cons.1 hd with rfl | hd
  · exact .inl (isLower_toLower hc)
  · exact hcs d hd

theorem markCapitals_eq (h : IsWord w) (sep : Char) : markCapitals sep w = sep :: w := by
  obtain ⟨c, cs, rfl, hc, hcs⟩ := h
  have hrest : cs.flatMap (fun d => if d.isUpper then [sep, d] else [d]) = cs := by
    have hsmall : ∀ d ∈ cs, (if d.isUpper then [sep, d] else [d]) = [d] :=
      fun d hd => by rw [if_neg (by simp [isUpper_of_small (hcs d hd)])]
    rw [List.flatMap_congr hsmall, List.flatMap_singleton']
  rw [markCapitals, List.flatMap_cons, hrest, if_pos hc]
  rfl

theorem capitalizeWords_inside {cs : List Char}
    (hcs : ∀ d ∈ cs, d.isLower = true ∨ d.isDigit = true) (rest : List Char) :
    capitalizeWords true (cs ++ rest) = cs ++ capitalizeWords true rest := by
  induction cs with
  | nil => rfl
  | cons d cs ih =>
      have hd := isWordChar_of_isAlphanum (isAlphanum_of_small (hcs d List.mem_cons_self))
      rw [List.cons_append, capitalizeWords, hd, ih fun e he => hcs e (List.mem_cons_of_mem d he)]
      rfl

/-- Capitalizing brings the capital of a word back. -/
theorem capitalizeWords_append (h : IsWord w) (rest : List Char) :
    capitalizeWords false (lowered w ++ rest) = w ++ capitalizeWords true rest := by
  obtain ⟨c, cs, rfl, hc, hcs⟩ := h
  have hfirst : isWordChar c.toLower = true :=
    isWordChar_of_isAlphanum (isAlphanum_of_small (.inl (isLower_toLower hc)))
  rw [lowered_cons hcs, List.cons_append, capitalizeWords, hfirst, capitalizeWords_inside hcs]
  simp [capital_toLower hc]

end IsWord

/-! ## Separating and writing a title -/

/-- The mark that a convention puts between words, and the mark that it does not. -/
def IsSeparator (sep other : Char) : Prop := sep = '-' ∧ other = '_' ∨ sep = '_' ∧ other = '-'

variable {sep other : Char}

namespace IsSeparator

theorem isAlphanum (h : IsSeparator sep other) :
    sep.isAlphanum = false ∧ other.isAlphanum = false := by
  rcases h with ⟨rfl, rfl⟩ | ⟨rfl, rfl⟩ <;> decide

theorem kept (h : IsSeparator sep other) : (isBlank sep || sep == other) = false := by
  rcases h with ⟨rfl, rfl⟩ | ⟨rfl, rfl⟩ <;> decide

theorem toNat_lt (h : IsSeparator sep other) : sep.toNat < 128 := by
  rcases h with ⟨rfl, -⟩ | ⟨rfl, -⟩ <;> decide

theorem toLower (h : IsSeparator sep other) : sep.toLower = sep := by
  rcases h with ⟨rfl, -⟩ | ⟨rfl, -⟩ <;> decide

end IsSeparator

theorem beq_of_isAlphanum {d : Char} (hc : c.isAlphanum = true) (hd : d.isAlphanum = false) :
    (c == d) = false := by
  apply beq_false_of_ne
  rintro rfl
  rw [hc] at hd
  cases hd

section Words

variable (hws : ∀ w ∈ ws, IsWord w)

include hws

theorem forall_mem_map_lowered :
    ∀ v ∈ ws.map lowered, v ≠ [] ∧ ∀ c ∈ v, c.isAlphanum = true := by
  intro v hv
  obtain ⟨w, hw, rfl⟩ := List.mem_map.1 hv
  refine ⟨?_, fun c hc => isAlphanum_of_small ((hws w hw).small c hc)⟩
  simpa [lowered] using (hws w hw).ne_nil

theorem isTrimmed_words (run : List Char) : IsTrimmed (joinWith run ws) := by
  apply isTrimmed_joinWith
  intro w hw
  exact ⟨.of_forall fun c hc => isBlank_of_isAlphanum ((hws w hw).isAlphanum c hc),
    (hws w hw).ne_nil⟩

/-- Every word is marked, because it begins with its only capital. -/
theorem markCapitals_words (sep : Char) :
    markCapitals sep (joinWith [' '] ws) = joinWith [' '] (ws.map (sep :: ·)) := by
  rw [markCapitals, flatMap_joinWith]
  exact congrArg (joinWith [' ']) (List.map_congr_left fun w hw => (hws w hw).markCapitals_eq sep)

variable (hsep : IsSeparator sep other)

include hsep

theorem collapse_markedWords :
    collapse (fun c => isBlank c || c == other) sep (joinWith [' '] (ws.map (sep :: ·))) =
      joinWith [sep] (ws.map (sep :: ·)) := by
  apply collapse_joinWith (List.cons_ne_nil ' ' [])
  · intro c hc
    rw [List.mem_singleton.1 hc]
    rfl
  · intro v hv
    obtain ⟨w, hw, rfl⟩ := List.mem_map.1 hv
    refine ⟨List.cons_ne_nil sep w, fun c hc => ?_⟩
    rcases List.mem_cons.1 hc with rfl | hc
    · exact hsep.kept
    · have hc := (hws w hw).isAlphanum c hc
      rw [isBlank_of_isAlphanum hc, beq_of_isAlphanum hc hsep.isAlphanum.2, Bool.false_or]

theorem lower_markedWords :
    lower (joinWith [sep] (ws.map (sep :: ·))) =
      joinWith [sep] ((ws.map lowered).map (sep :: ·)) := by
  rw [lower_of_ascii, map_joinWith, List.map_map, List.map_map]
  · simp [Function.comp_def, hsep.toLower, lowered]
  · intro c hc
    rcases mem_joinWith hc with hc | ⟨v, hv, hc⟩
    · rw [List.mem_singleton.1 hc]
      exact hsep.toNat_lt
    · obtain ⟨w, hw, rfl⟩ := List.mem_map.1 hv
      rcases List.mem_cons.1 hc with rfl | hc
      · exact hsep.toNat_lt
      · exact toNat_lt_of_isAlphanum ((hws w hw).isAlphanum c hc)

/-- Words with a separator between them, without capitals. -/
theorem separated_words (hne : ws ≠ []) :
    separated sep other (joinWith [' '] ws) = joinWith [sep] (ws.map lowered) := by
  have hplain : ∀ v ∈ ws.map lowered, v ≠ [] ∧ ∀ c ∈ v, (c == sep) = false := fun v hv =>
    ⟨(forall_mem_map_lowered hws v hv).1, fun c hc =>
      beq_of_isAlphanum ((forall_mem_map_lowered hws v hv).2 c hc) hsep.isAlphanum.1⟩
  have hhead : ∀ run, ∀ c ∈ (joinWith run (ws.map lowered)).head?, (c == sep) = false := by
    intro run c hc
    obtain ⟨v, hv, hc⟩ := exists_mem_of_head?_joinWith (fun v hv => (hplain v hv).1) hc
    exact (hplain v hv).2 c hc
  -- Two separators stand before every word, its own and the one between the words.
  have hdoubled : collapse (· == sep) sep (joinWith [sep] ((ws.map lowered).map (sep :: ·))) =
      sep :: joinWith [sep] (ws.map lowered) := by
    rw [joinWith_map_cons sep [sep] (by simpa using hne), ← List.singleton_append,
      collapse_run (List.cons_ne_nil sep []) (by simp) (hhead _),
      collapse_joinWith (List.append_ne_nil_of_left_ne_nil (List.cons_ne_nil sep []) [sep])
        (by simp) hplain]
  rw [separated, markCapitals_words hws, collapse_markedWords hws hsep, lower_markedWords hws hsep,
    hdoubled, List.dropWhile_cons, if_pos (beq_self_eq_true sep), dropWhile_of_head (hhead _)]

end Words

theorem capitalizeWords_words (hws : ∀ w ∈ ws, IsWord w) :
    capitalizeWords false (joinWith [' '] (ws.map lowered)) = joinWith [' '] ws := by
  induction ws with
  | nil => rfl
  | cons w ws ih =>
      have hw := hws w List.mem_cons_self
      cases ws with
      | nil =>
          have hend := hw.capitalizeWords_append []
          rw [List.append_nil, capitalizeWords, List.append_nil] at hend
          rw [List.map_singleton, joinWith_singleton, joinWith_singleton, hend]
      | cons v ws =>
          have hblank : isWordChar ' ' = false := by decide +kernel
          rw [List.map_cons, List.map_cons, joinWith_cons_cons, joinWith_cons_cons,
            List.append_assoc, List.singleton_append, hw.capitalizeWords_append, capitalizeWords,
            hblank, ← List.map_cons, ih fun u hu => hws u (List.mem_cons_of_mem w hu)]
          simp

/-- Words without capitals and with a separator between them are a title again. -/
theorem title_words (hsep : IsSeparator sep other) (hws : ∀ w ∈ ws, IsWord w) :
    title (joinWith [sep] (ws.map lowered)) = joinWith [' '] ws := by
  have hspaced : collapse (fun c => c == '_' || c == '-') ' ' (joinWith [sep] (ws.map lowered)) =
      joinWith [' '] (ws.map lowered) := by
    apply collapse_joinWith (List.cons_ne_nil sep [])
    · intro c hc
      rw [List.mem_singleton.1 hc]
      rcases hsep with ⟨rfl, -⟩ | ⟨rfl, -⟩ <;> decide
    · intro v hv
      obtain ⟨hne, hv⟩ := forall_mem_map_lowered hws v hv
      refine ⟨hne, fun c hc => ?_⟩
      rw [beq_of_isAlphanum (hv c hc) (by decide), beq_of_isAlphanum (hv c hc) (by decide),
        Bool.false_or]
  have hsame : collapse isBlank ' ' (joinWith [' '] ws) = joinWith [' '] ws := by
    apply collapse_joinWith (List.cons_ne_nil ' ' [])
    · intro c hc
      rw [List.mem_singleton.1 hc]
      decide
    · exact fun w hw => ⟨(hws w hw).ne_nil, fun c hc =>
        isBlank_of_isAlphanum ((hws w hw).isAlphanum c hc)⟩
  rw [title, hspaced, capitalizeWords_words hws, hsame,
    trim_of_isTrimmed (isTrimmed_words hws [' '])]

theorem title_nil : title [] = [] := by
  simp [title, collapse, capitalizeWords, trim_of_isTrimmed .nil]

/-! ## Paths of titles -/

/-- The conventions that write small words with a mark between them. -/
def Convention.Separates (k : Convention) : Prop := k = .kebab ∨ k = .snake

/-- Titles with slashes between them. -/
def IsTitlePath (path : List Char) : Prop :=
  ∃ segments, segments ≠ [] ∧ (∀ s ∈ segments, IsTitle s) ∧ path = joinWith ['/'] segments

variable {k : Convention} {s : List Char} {segments : List (List Char)}

theorem Convention.Separates.exists_separated (hk : k.Separates) :
    ∃ sep other, IsSeparator sep other ∧ ∀ s, k.apply s = separated sep other s := by
  rcases hk with rfl | rfl
  · exact ⟨'-', '_', .inl ⟨rfl, rfl⟩, fun _ => rfl⟩
  · exact ⟨'_', '-', .inr ⟨rfl, rfl⟩, fun _ => rfl⟩

theorem IsTitle.ne_nil (h : IsTitle s) : s ≠ [] := by
  obtain ⟨ws, hne, hws, rfl⟩ := h
  exact joinWith_ne_nil hne (fun w hw => (hws w hw).ne_nil) [' ']

theorem IsTitle.isTrimmed (h : IsTitle s) : IsTrimmed s := by
  obtain ⟨ws, -, hws, rfl⟩ := h
  exact isTrimmed_words hws [' ']

theorem IsTitle.slash_notMem (h : IsTitle s) : '/' ∉ s := by
  obtain ⟨ws, -, hws, rfl⟩ := h
  intro hmem
  rcases mem_joinWith hmem with hc | ⟨w, hw, hc⟩
  · exact absurd hc (by decide)
  · exact absurd ((hws w hw).isAlphanum '/' hc) (by decide)

theorem IsTitle.title_apply (hk : k.Separates) (h : IsTitle s) : title (k.apply s) = s := by
  obtain ⟨sep, other, hsep, happly⟩ := hk.exists_separated
  obtain ⟨ws, hne, hws, rfl⟩ := h
  rw [happly, separated_words hws hsep hne, title_words hsep hws]

theorem IsTitle.mem_apply (hk : k.Separates) (h : IsTitle s) :
    ∀ c ∈ k.apply s, c.isAlphanum = true ∨ c = '-' ∨ c = '_' := by
  obtain ⟨sep, other, hsep, happly⟩ := hk.exists_separated
  obtain ⟨ws, hne, hws, rfl⟩ := h
  intro c hc
  rw [happly, separated_words hws hsep hne] at hc
  rcases mem_joinWith hc with hc | ⟨v, hv, hc⟩
  · rw [List.mem_singleton] at hc
    exact .inr (hsep.imp (hc.trans ·.1) (hc.trans ·.1))
  · obtain ⟨w, hw, rfl⟩ := List.mem_map.1 hv
    exact .inl (isAlphanum_of_small ((hws w hw).small c hc))

theorem Convention.Separates.apply_nil (hk : k.Separates) : k.apply [] = [] := by
  obtain ⟨sep, other, -, happly⟩ := hk.exists_separated
  simp [happly, separated, markCapitals, collapse, Text.lower, lowerAfter]

theorem Convention.applyToPath_joinWith (k : Convention) (hne : segments ≠ [])
    (h : ∀ s ∈ segments, '/' ∉ s) :
    k.applyToPath (joinWith ['/'] segments) = joinWith ['/'] (segments.map k.apply) := by
  rw [applyToPath, splitAt_joinWith hne h]

section Path

variable (hne : segments ≠ []) (h : ∀ s ∈ segments, s = [] ∨ IsTitle s)

include hne h

/-- A path of titles is written segment by segment; a slash may stand before it. -/
theorem applyToPath_titles :
    k.applyToPath (joinWith ['/'] segments) = joinWith ['/'] (segments.map k.apply) := by
  apply k.applyToPath_joinWith hne
  intro s hs
  rcases h s hs with rfl | hs
  · exact List.not_mem_nil
  · exact hs.slash_notMem

theorem mem_applyToPath (hk : k.Separates) :
    ∀ c ∈ k.applyToPath (joinWith ['/'] segments),
      c.isAlphanum = true ∨ c = '-' ∨ c = '_' ∨ c = '/' := by
  intro c hc
  rw [applyToPath_titles hne h] at hc
  rcases mem_joinWith hc with hc | ⟨t, ht, hc⟩
  · exact .inr (.inr (.inr (List.mem_singleton.1 hc)))
  · obtain ⟨s, hs, rfl⟩ := List.mem_map.1 ht
    rcases h s hs with rfl | hs
    · rw [hk.apply_nil] at hc
      cases hc
    · exact (hs.mem_apply hk c hc).imp_right (·.imp_right .inl)

/-- Writing titles brings the path back. -/
theorem title_applyToPath (hk : k.Separates) :
    Convention.title.applyToPath (k.applyToPath (joinWith ['/'] segments)) =
      joinWith ['/'] segments := by
  have hback : ∀ s ∈ segments, title (k.apply s) = s := by
    intro s hs
    rcases h s hs with rfl | hs
    · rw [hk.apply_nil, title_nil]
    · exact hs.title_apply hk
  have hslash : ∀ t ∈ segments.map k.apply, '/' ∉ t := by
    intro t ht hmem
    obtain ⟨s, hs, rfl⟩ := List.mem_map.1 ht
    rcases h s hs with rfl | hs
    · rw [hk.apply_nil] at hmem
      cases hmem
    · have := hs.mem_apply hk '/' hmem
      exact absurd this (by decide)
  rw [applyToPath_titles hne h,
    Convention.title.applyToPath_joinWith (by simpa using hne) hslash, List.map_map]
  exact congrArg (joinWith ['/']) ((List.map_congr_left hback).trans (List.map_id' segments))

end Path

end FolderTag.Transform
