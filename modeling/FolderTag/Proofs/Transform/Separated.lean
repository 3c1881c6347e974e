import FolderTag.Proofs.Text.Recasing
import FolderTag.Proofs.Transform.Convention

/-! # Separated words are one form in two spellings

Whatever separates the words of a text, only the words themselves are in its separated form. So a
text and its separated form have the same separated form, and what the words of a name were written
in before does not matter. -/

namespace FolderTag.Transform

open FolderTag.Text

variable {sep other sep' other' c : Char} {s : List Char}

theorem isBreak_of_isSeparator (h : isSeparator c = true) : IsBreak c := by
  rw [isSeparator, Bool.or_eq_true, Bool.or_eq_true, beq_iff_eq, beq_iff_eq] at h
  rcases h with (h | rfl) | rfl
  · exact isBreak_of_isBlank h
  · exact isBreak_of_mem (b := ⟨0x5f, 0x5f⟩) (by decide) (by decide) (by decide)
  · exact isBreak_of_mem (b := ⟨0x2d, 0x2d⟩) (by decide) (by decide) (by decide)

theorem isSeparator_of_isBlank (h : isBlank c = true) : isSeparator c = true := by
  rw [isSeparator, h, Bool.true_or, Bool.true_or]

theorem isUncased_of_isSeparator (h : isSeparator c = true) : isUncased c = true :=
  (isBreak_of_isSeparator h).uncased

/-- Single blanks are no more separators than there were. -/
theorem countP_trim_collapse_le (s : List Char) :
    (trim (collapse isBlank ' ' s)).countP isSeparator ≤ s.countP isSeparator :=
  (infix_trimWhile isBlank _).sublist.countP_le.trans
    (countP_collapse_le (fun _ hc => isSeparator_of_isBlank hc) s)

theorem isSeparator_of_isAlphanum (h : c.isAlphanum = true) : isSeparator c = false := by
  rw [isSeparator, isBlank_of_isAlphanum h, beq_of_isAlphanum h (by decide),
    beq_of_isAlphanum h (by decide)]
  rfl

namespace IsSeparator

theorem isSeparator (h : IsSeparator sep other) : isSeparator sep = true := by
  rcases h with ⟨rfl, rfl⟩ | ⟨rfl, rfl⟩ <;> decide

theorem isSeparator_eq (h : IsSeparator sep other) (c : Char) :
    Transform.isSeparator c = (isBlank c || c == other || c == sep) := by
  rcases h with ⟨rfl, rfl⟩ | ⟨rfl, rfl⟩
  · rfl
  · rw [Transform.isSeparator, Bool.or_assoc, Bool.or_assoc, Bool.or_comm (c == '_')]

end IsSeparator

/-! ## The separated form -/

theorem isUpper_eq_false_of_lower (h : lower [c] = [c]) : c.isUpper = false := by
  by_contra hupper
  rw [Bool.not_eq_false] at hupper
  have hascii := toNat_lt_of_isAlphanum (isAlphanum_of_isUpper hupper)
  rw [lower_singleton, map_lowerImage_of_ascii hascii, List.cons.injEq] at h
  have hsmall := isLower_toLower hupper
  rw [h.1] at hsmall
  have := isUpper_of_small (.inl hsmall)
  rw [hupper] at this
  cases this

theorem markCapitals_of_forall (h : ∀ c ∈ s, c.isUpper = false) : markCapitals sep s = s := by
  have hsame : ∀ c ∈ s, (if c.isUpper then [sep, c] else [c]) = [c] := fun c hc => by
    rw [if_neg (by simp [h c hc])]
  rw [markCapitals, List.flatMap_congr hsame, List.flatMap_singleton']

/-- All runs are replaced at once, and a run at the beginning is dropped. -/
theorem separated_eq (h : IsSeparator sep other) (s : List Char) :
    separated sep other s =
      collapse isSeparator sep ((lower (markCapitals sep s)).dropWhile isSeparator) := by
  have hboth : (fun c => isBlank c || c == other || c == sep) = isSeparator :=
    funext fun c => (h.isSeparator_eq c).symm
  have hbreak : ∀ c, (isBlank c || c == other) = true → IsBreak c := fun c hc =>
    isBreak_of_isSeparator (by rw [h.isSeparator_eq, hc, Bool.true_or])
  have hsame : ∀ c, (isSeparator c || c == sep) = isSeparator c := by
    intro c
    rw [h.isSeparator_eq, Bool.or_assoc, Bool.or_self]
  rw [separated, lower_collapse hbreak (isBreak_of_isSeparator h.isSeparator),
    collapse_collapse (q := (· == sep)) (beq_self_eq_true sep), hboth,
    dropWhile_collapse (q := (· == sep)) (beq_self_eq_true sep), funext hsame]

/-- The mark in front of the capitals is one of the separators. -/
theorem collapse_markCapitals (hsep : isSeparator sep = true) (hsep' : isSeparator sep' = true)
    (mark : Char) (hmark : isSeparator mark = true) (s : List Char) :
    collapse isSeparator mark ((lower (markCapitals sep s)).dropWhile isSeparator) =
      collapse isSeparator mark ((lower (markCapitals sep' s)).dropWhile isSeparator) := by
  let unified : Char → Char := fun c => if isSeparator c then mark else c
  have hkind : ∀ c, isSeparator (unified c) = isSeparator c := by
    intro c
    cases hc : isSeparator c <;> simp [unified, hc, hmark]
  have hplain : ∀ c, isSeparator c = false → unified c = c := fun c hc => by simp [unified, hc]
  have hmap : (markCapitals sep s).map unified = (markCapitals sep' s).map unified := by
    rw [markCapitals, markCapitals, List.map_flatMap, List.map_flatMap]
    refine List.flatMap_congr fun c _ => ?_
    split_ifs
    · simp [unified, hsep, hsep']
    · rfl
  have hunify : ∀ t : List Char, collapse isSeparator mark (t.dropWhile isSeparator) =
      collapse isSeparator mark ((t.map unified).dropWhile isSeparator) := by
    intro t
    have hcomp : isSeparator ∘ unified = isSeparator := funext hkind
    rw [List.dropWhile_map, collapse_map hkind hplain, hcomp]
  have hbreak : ∀ c, isSeparator c = true → IsBreak c := fun c hc => isBreak_of_isSeparator hc
  rw [← lower_dropWhile hbreak, ← lower_dropWhile hbreak,
    ← lower_collapse hbreak (isBreak_of_isSeparator hmark),
    ← lower_collapse hbreak (isBreak_of_isSeparator hmark), hunify, hmap, ← hunify]

/-- What a name with separated words looks like. -/
structure IsSpelledWith (sep other : Char) (s : List Char) : Prop where
  isUpper : ∀ c ∈ s, c.isUpper = false
  isBlank : ∀ c ∈ s, isBlank c = false
  notMem : other ∉ s
  single : s.IsChain fun a b => ¬ (a = sep ∧ b = sep)
  head : s.head? ≠ some sep

theorem lower_of_mem_separated (h : IsSeparator sep other) (hc : c ∈ separated sep other s) :
    lower [c] = [c] := by
  rw [separated_eq h] at hc
  rcases mem_collapse hc with rfl | ⟨hmem, -⟩
  · exact (isCaseOf_lower c).eq_singleton (isUncased_of_isSeparator h.isSeparator)
  · exact lower_of_mem_lower ((List.dropWhile_sublist _).subset hmem)

theorem eq_of_mem_separated (h : IsSeparator sep other) (hc : c ∈ separated sep other s)
    (hsep : isSeparator c = true) : c = sep := by
  rw [separated_eq h] at hc
  refine (mem_collapse hc).resolve_right ?_
  rintro ⟨-, hnone⟩
  rw [hsep] at hnone
  cases hnone

theorem isSpelledWith_separated (h : IsSeparator sep other) (s : List Char) :
    IsSpelledWith sep other (separated sep other s) where
  isUpper := fun c hc => isUpper_eq_false_of_lower (lower_of_mem_separated h hc)
  isBlank := by
    intro c hc
    by_contra hblank
    rw [Bool.not_eq_false] at hblank
    have hsep := eq_of_mem_separated h hc (isSeparator_of_isBlank hblank)
    rw [hsep] at hblank
    rcases h with ⟨rfl, -⟩ | ⟨rfl, -⟩ <;> exact absurd hblank (by decide)
  notMem := by
    intro hmem
    have hsep : isSeparator other = true := by
      rw [h.isSeparator_eq, beq_self_eq_true, Bool.or_true, Bool.true_or]
    have hother := eq_of_mem_separated h hmem hsep
    rcases h with ⟨rfl, rfl⟩ | ⟨rfl, rfl⟩ <;> exact absurd hother (by decide)
  single := by
    rw [separated_eq h]
    refine (isChain_collapse _).imp fun a b hpair hboth => hpair ?_
    rw [hboth.1, hboth.2]
    exact ⟨h.isSeparator, h.isSeparator⟩
  head := by
    intro hhead
    rw [separated_eq h, head?_collapse fun c hc => head?_dropWhile hc] at hhead
    have := head?_dropWhile (p := isSeparator) (Option.mem_def.2 hhead)
    rw [h.isSeparator] at this
    cases this

/-- The separated form of a separated form is that of the text. -/
theorem separated_separated (h : IsSeparator sep other) (h' : IsSeparator sep' other')
    (s : List Char) : separated sep' other' (separated sep other s) = separated sep' other' s := by
  have hmarked : markCapitals sep' (separated sep other s) = separated sep other s :=
    markCapitals_of_forall (isSpelledWith_separated h s).isUpper
  have hlowered : lower (separated sep other s) = separated sep other s :=
    lower_of_forall fun c hc => lower_of_mem_separated h hc
  rw [separated_eq h', hmarked, hlowered, separated_eq h, dropWhile_collapse h.isSeparator]
  simp only [Bool.or_self]
  rw [dropWhile_dropWhile fun c hc => hc, collapse_collapse h.isSeparator]
  simp only [Bool.or_self]
  rw [collapse_markCapitals h.isSeparator h'.isSeparator sep' h'.isSeparator, separated_eq h']

theorem isSeparator_snake : IsSeparator '_' '-' := .inr ⟨rfl, rfl⟩

theorem isSeparator_kebab : IsSeparator '-' '_' := .inl ⟨rfl, rfl⟩

/-- Underscores and hyphens are two spellings of one form: each convention keeps what it has written
and undoes the other one. -/
theorem snake_kebab_spellings (s : List Char) :
    (snake (kebab s) = snake s ∧ snake (snake s) = snake s) ∧
    (kebab (snake s) = kebab s ∧ kebab (kebab s) = kebab s) ∧
    IsSpelledWith '_' '-' (snake s) ∧ IsSpelledWith '-' '_' (kebab s) :=
  ⟨⟨separated_separated isSeparator_kebab isSeparator_snake s,
      separated_separated isSeparator_snake isSeparator_snake s⟩,
    ⟨separated_separated isSeparator_snake isSeparator_kebab s,
      separated_separated isSeparator_kebab isSeparator_kebab s⟩,
    isSpelledWith_separated isSeparator_snake s, isSpelledWith_separated isSeparator_kebab s⟩

end FolderTag.Transform
