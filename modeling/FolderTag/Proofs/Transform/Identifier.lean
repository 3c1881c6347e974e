import FolderTag.Proofs.Transform.Separated

/-! # Identifiers survive the other conventions

A hump, a leading capital, a blank and a hyphen each say where a word of an identifier begins, and
separating the words again finds every one of them. -/

namespace FolderTag.Transform

open FolderTag.Text

variable {c x : Char} {s rest w : List Char} {ws : List (List Char)}

/-- A small letter with small letters and digits behind it. -/
def IsSmallWord (w : List Char) : Prop :=
  ∃ c cs, w = c :: cs ∧ c.isLower = true ∧ ∀ d ∈ cs, d.isLower = true ∨ d.isDigit = true

/-- A small word is a word without its capital. -/
theorem IsSmallWord.exists_lowered (h : IsSmallWord w) : ∃ v, IsWord v ∧ lowered v = w := by
  obtain ⟨c, cs, rfl, hc, hcs⟩ := h
  have hcapital : c.toUpper.isUpper = true ∧ c.toUpper.toLower = c :=
    forall_ascii (p := fun c => c.isLower = true → c.toUpper.isUpper = true ∧ c.toUpper.toLower = c)
      (by decide +kernel) (toNat_lt_of_isAlphanum (isAlphanum_of_small (.inl hc))) hc
  refine ⟨c.toUpper :: cs, ⟨c.toUpper, cs, rfl, hcapital.1, hcs⟩, ?_⟩
  rw [IsWord.lowered_cons hcs, hcapital.2]

theorem markCapitals_append (sep : Char) (s t : List Char) :
    markCapitals sep (s ++ t) = markCapitals sep s ++ markCapitals sep t := List.flatMap_append

theorem mem_markCapitals {sep : Char} (h : c ∈ markCapitals sep s) : c = sep ∨ c ∈ s := by
  obtain ⟨d, hd, hc⟩ := List.mem_flatMap.1 h
  split_ifs at hc
  · rcases List.mem_cons.1 hc with rfl | hc
    · exact .inl rfl
    · exact .inr (List.mem_singleton.1 hc ▸ hd)
  · exact .inr (List.mem_singleton.1 hc ▸ hd)

theorem exists_map_lowered (h : ∀ w ∈ ws, IsSmallWord w) :
    ∃ vs : List (List Char), (∀ v ∈ vs, IsWord v) ∧ vs.map lowered = ws := by
  induction ws with
  | nil => exact ⟨[], by simp, rfl⟩
  | cons w ws ih =>
      obtain ⟨v, hv, hw⟩ := (h w List.mem_cons_self).exists_lowered
      obtain ⟨vs, hvs, hws⟩ := ih fun u hu => h u (List.mem_cons_of_mem w hu)
      exact ⟨v :: vs, List.forall_mem_cons.2 ⟨hv, hvs⟩, by rw [List.map_cons, hw, hws]⟩

/-! ## Words run together -/

theorem joinWords_append (h : ∀ c ∈ w, isSeparator c = false) (s : List Char) :
    joinWords (w ++ s) = w ++ joinWords s := by
  induction w with
  | nil => rfl
  | cons c w ih =>
      rw [List.cons_append, joinWords, if_neg (by simp [h c List.mem_cons_self]),
        ih fun d hd => h d (List.mem_cons_of_mem c hd), List.cons_append]

theorem joinWords_of_dropWhile (hc : isSeparator c = true)
    (hrest : s.dropWhile isSeparator = x :: rest) :
    joinWords (c :: s) = capital x ++ joinWords rest := by
  rw [joinWords, if_pos hc]
  split
  next hnil => rw [hrest] at hnil; cases hnil
  next hcons =>
    rw [hrest] at hcons
    obtain ⟨rfl, rfl⟩ := List.cons.inj hcons
    rfl

namespace IsWord

variable {v : List Char} {vs : List (List Char)}

theorem isSeparator_lowered (h : IsWord v) : ∀ d ∈ lowered v, isSeparator d = false :=
  fun d hd => isSeparator_of_isAlphanum (isAlphanum_of_small (h.small d hd))

/-- All words but the first get their capital back. -/
theorem joinWords_lowered (hv : IsWord v) (hvs : ∀ v ∈ vs, IsWord v) :
    joinWords (joinWith ['_'] ((v :: vs).map lowered)) = lowered v ++ vs.flatten := by
  induction vs generalizing v with
  | nil =>
      have hend := joinWords_append hv.isSeparator_lowered []
      rw [joinWords, List.append_nil] at hend
      rw [List.map_singleton, joinWith_singleton, hend, List.flatten_nil, List.append_nil]
  | cons u us ih =>
      have hu := hvs u List.mem_cons_self
      have hjoin := ih hu fun t ht => hvs t (List.mem_cons_of_mem u ht)
      have hsmall := hu.isSeparator_lowered
      obtain ⟨c, cs, rfl, hc, hcs⟩ := hu
      rw [List.map_cons, lowered_cons hcs, joinWith_cons, List.cons_append,
        ← List.singleton_append, joinWords_append
          (List.forall_mem_singleton.2 (hsmall _ (by rw [lowered_cons hcs]; simp))),
        List.singleton_append, List.cons_append, List.cons.injEq] at hjoin
      rw [List.map_cons, List.map_cons, joinWith_cons_cons, List.append_assoc,
        joinWords_append hv.isSeparator_lowered, lowered_cons hcs, joinWith_cons,
        List.singleton_append]
      rw [joinWords_of_dropWhile (x := c.toLower) (by decide), hjoin.2, capital_toLower hc]
      · rfl
      · rw [List.cons_append, List.dropWhile_cons,
          if_neg (by simp [hsmall c.toLower (by rw [lowered_cons hcs]; simp)])]

/-- What is between the words comes from their capitals. -/
theorem lower_markCapitals_append (hw : ∀ c ∈ w, c.isAlphanum = true)
    (hvs : ∀ v ∈ vs, IsWord v) :
    lower (markCapitals '_' (w ++ vs.flatten)) =
      (markCapitals '_' w).map Char.toLower ++ (vs.map lowered).flatMap ('_' :: ·) := by
  have hascii : ∀ c ∈ markCapitals '_' (w ++ vs.flatten), c.toNat < 128 := by
    intro c hc
    rcases mem_markCapitals hc with rfl | hc
    · decide
    · refine toNat_lt_of_isAlphanum ?_
      rcases List.mem_append.1 hc with hc | hc
      · exact hw c hc
      · obtain ⟨v, hv, hc⟩ := List.mem_flatten.1 hc
        exact (hvs v hv).isAlphanum c hc
  have hmark : markCapitals '_' vs.flatten = vs.flatMap ('_' :: ·) := by
    rw [markCapitals, List.flatten_eq_flatMap, List.flatMap_assoc]
    exact List.flatMap_congr fun v hv => (hvs v hv).markCapitals_eq '_'
  rw [lower_of_ascii hascii, markCapitals_append, hmark, List.map_append, List.map_flatMap,
    List.flatMap_map]
  rfl

end IsWord

/-! ## Every other convention and back -/

section Identifier

variable {v : List Char} {vs : List (List Char)} (hv : IsWord v) (hvs : ∀ v ∈ vs, IsWord v)

include hv hvs

theorem snake_of_marked (run : List Char) (hrun : ∀ c ∈ run, isSeparator c = true)
    (hmarked : lower (markCapitals '_' s) = run ++ joinWith ['_'] ((v :: vs).map lowered)) :
    snake s = joinWith ['_'] ((v :: vs).map lowered) := by
  have hword : ∀ w ∈ (v :: vs).map lowered, w ≠ [] ∧ ∀ c ∈ w, isSeparator c = false := by
    intro w hw
    obtain ⟨hne, halnum⟩ := forall_mem_map_lowered (List.forall_mem_cons.2 ⟨hv, hvs⟩) w hw
    exact ⟨hne, fun c hc => isSeparator_of_isAlphanum (halnum c hc)⟩
  have hhead : ∀ c ∈ (joinWith ['_'] ((v :: vs).map lowered)).head?, isSeparator c = false := by
    intro c hc
    obtain ⟨w, hw, hc⟩ := exists_mem_of_head?_joinWith (fun w hw => (hword w hw).1) hc
    exact (hword w hw).2 c hc
  rw [snake, separated_eq isSeparator_snake, hmarked, List.dropWhile_append_of_pos hrun,
    dropWhile_of_head hhead, collapse_joinWith (List.cons_ne_nil '_' [])
      (List.forall_mem_singleton.2 (by decide)) hword]

theorem snake_camel_words :
    snake (camel (joinWith ['_'] ((v :: vs).map lowered))) =
      joinWith ['_'] ((v :: vs).map lowered) := by
  have hsmall := hv.small
  have hcamel : camel (joinWith ['_'] ((v :: vs).map lowered)) = lowered v ++ vs.flatten := by
    rw [camel, hv.joinWords_lowered hvs]
    obtain ⟨c, cs, rfl, hc, hcs⟩ := hv
    have hascii := toNat_lt_of_isAlphanum (isAlphanum_of_small (.inl (isLower_toLower hc)))
    rw [IsWord.lowered_cons hcs, List.cons_append, mapFirst, lower_singleton,
      map_lowerImage_of_ascii hascii, toLower_of_small (.inl (isLower_toLower hc))]
    rfl
  apply snake_of_marked hv hvs [] (by simp)
  rw [hcamel, IsWord.lower_markCapitals_append
      (fun c hc => isAlphanum_of_small (hsmall c hc)) hvs,
    markCapitals_of_forall fun c hc => isUpper_of_small (hsmall c hc),
    List.map_congr_left fun c hc => toLower_of_small (hsmall c hc), List.map_id', List.nil_append,
    List.map_cons, joinWith_cons]
  rfl

theorem snake_pascal_words :
    snake (pascal (joinWith ['_'] ((v :: vs).map lowered))) =
      joinWith ['_'] ((v :: vs).map lowered) := by
  have hpascal : pascal (joinWith ['_'] ((v :: vs).map lowered)) = v ++ vs.flatten := by
    rw [pascal, hv.joinWords_lowered hvs]
    obtain ⟨c, cs, rfl, hc, hcs⟩ := hv
    rw [IsWord.lowered_cons hcs, List.cons_append, mapFirst, ← capital, capital_toLower hc]
    rfl
  apply snake_of_marked hv hvs ['_'] (List.forall_mem_singleton.2 (by decide))
  rw [hpascal, IsWord.lower_markCapitals_append hv.isAlphanum hvs, hv.markCapitals_eq,
    List.map_cons, List.map_cons, joinWith_cons]
  rfl

theorem snake_title_words :
    snake (title (joinWith ['_'] ((v :: vs).map lowered))) =
      joinWith ['_'] ((v :: vs).map lowered) := by
  have hws : ∀ w ∈ v :: vs, IsWord w := List.forall_mem_cons.2 ⟨hv, hvs⟩
  rw [title_words isSeparator_snake hws, snake,
    separated_words hws isSeparator_snake (List.cons_ne_nil v vs)]

end Identifier

/-- An identifier comes back from every other way of writing its words. -/
theorem snake_of_identifier {ws : List (List Char)} (hne : ws ≠ [])
    (h : ∀ w ∈ ws, IsSmallWord w) :
    let s := joinWith ['_'] ws
    snake (camel s) = s ∧ snake (pascal s) = s ∧ snake (title s) = s ∧ snake (kebab s) = s := by
  intro s
  obtain ⟨vs, hvs, hlowered⟩ := exists_map_lowered h
  obtain ⟨v, vs, rfl⟩ := List.exists_cons_of_ne_nil fun hnil : vs = [] => hne (by
    rw [← hlowered, hnil]
    rfl)
  obtain ⟨hv, hvs⟩ := List.forall_mem_cons.1 hvs
  have hs : joinWith ['_'] ((v :: vs).map lowered) = s := by rw [hlowered]
  have htitle := snake_title_words hv hvs
  have hsnake : snake s = s := by
    rw [hs] at htitle
    rw [← htitle]
    exact separated_separated isSeparator_snake isSeparator_snake (title s)
  refine ⟨?_, ?_, ?_, ?_⟩
  · rw [← hs]
    exact snake_camel_words hv hvs
  · rw [← hs]
    exact snake_pascal_words hv hvs
  · rw [← hs]
    exact htitle
  · exact (separated_separated isSeparator_kebab isSeparator_snake s).trans hsnake

/-- Words of one letter and words with digits. -/
theorem snake_of_identifier_short :
    (∀ w ∈ ["a".toList, "b2".toList, "x".toList], IsSmallWord w) ∧
      camel "a_b2_x".toList = "aB2X".toList ∧ pascal "a_b2_x".toList = "AB2X".toList ∧
      title "a_b2_x".toList = "A B2 X".toList ∧ kebab "a_b2_x".toList = "a-b2-x".toList ∧
      snake "aB2X".toList = "a_b2_x".toList ∧ snake "AB2X".toList = "a_b2_x".toList ∧
      snake "A B2 X".toList = "a_b2_x".toList ∧ snake "a-b2-x".toList = "a_b2_x".toList := by
  have hwords : ∀ w ∈ ["a".toList, "b2".toList, "x".toList], IsSmallWord w := by
    simp only [List.forall_mem_cons]
    refine ⟨⟨'a', [], rfl, by decide, by simp⟩, ⟨'b', ['2'], rfl, by decide, by simp⟩,
      ⟨'x', [], rfl, by decide, by simp⟩, by simp⟩
  obtain ⟨hcamel, hpascal, htitle, hkebab⟩ :=
    snake_of_identifier (List.cons_ne_nil _ _) hwords
  have hs : joinWith ['_'] ["a".toList, "b2".toList, "x".toList] = "a_b2_x".toList := rfl
  rw [hs] at hcamel hpascal htitle hkebab
  have ecamel : camel "a_b2_x".toList = "aB2X".toList := by decide +kernel
  have epascal : pascal "a_b2_x".toList = "AB2X".toList := by decide +kernel
  have etitle : title "a_b2_x".toList = "A B2 X".toList := by decide +kernel
  have ekebab : kebab "a_b2_x".toList = "a-b2-x".toList := by decide +kernel
  rw [ecamel] at hcamel
  rw [epascal] at hpascal
  rw [etitle] at htitle
  rw [ekebab] at hkebab
  exact ⟨hwords, ecamel, epascal, etitle, ekebab, hcamel, hpascal, htitle, hkebab⟩

end FolderTag.Transform
