import FolderTag.Proofs.Text.Collapse
import FolderTag.Proofs.Transform.RunTogether
import FolderTag.Proofs.Transform.Title

/-! # What all conventions keep

No convention makes a character without case that was not there, apart from the blanks, underscores
and hyphens it writes between words. So a path keeps its segments, and what holds of every segment
holds of the path. -/

namespace FolderTag.Transform

open FolderTag.Document FolderTag.Text

variable {k : Convention} {c d mark sep other : Char} {p : Char → Bool} {s t u : List Char}

/-! ## Where characters come from -/

/-- What a convention writes between words. -/
def marks : List Char := [' ', '_', '-']

/-- Each character of `t` without case was in `s` or is a mark. -/
def IsDrawnFrom (s t : List Char) : Prop := ∀ d ∈ t, isUncased d = true → d ∈ marks ∨ d ∈ s

namespace IsDrawnFrom

theorem of_subset (h : t ⊆ s) : IsDrawnFrom s t := fun _ hd _ => .inr (h hd)

theorem of_recased (h : Recased s t) : IsDrawnFrom s t := fun _ hd hcase =>
  .inr ((h.mem_iff hcase).1 hd)

theorem trans (h : IsDrawnFrom s t) (h' : IsDrawnFrom t u) : IsDrawnFrom s u := fun d hd hcase =>
  (h' d hd hcase).elim .inl fun hd => h d hd hcase

theorem collapse (hmark : mark ∈ marks) (s : List Char) : IsDrawnFrom s (collapse p mark s) :=
  fun _ hd _ => (mem_collapse hd).imp (fun h => by rwa [h]) And.left

end IsDrawnFrom

theorem isDrawnFrom_separated (h : IsSeparator sep other) (s : List Char) :
    IsDrawnFrom s (separated sep other s) := by
  have hmark : sep ∈ marks := by rcases h with ⟨rfl, -⟩ | ⟨rfl, -⟩ <;> decide
  have hmarked : IsDrawnFrom s (markCapitals sep s) := fun d hd _ =>
    (mem_markCapitals hd).imp_left fun heq => by rwa [heq]
  rw [separated_eq h]
  exact (hmarked.trans (.of_recased (recased_lower _))).trans
    ((IsDrawnFrom.of_subset (List.dropWhile_sublist _).subset).trans (.collapse hmark _))

theorem isDrawnFrom_mapFirst_joinWords {f : List Char → List Char} (hf : IsCasing f)
    (s : List Char) : IsDrawnFrom s (mapFirst f (joinWords s)) := by
  obtain ⟨kept, hsub, hcase⟩ := exists_recased_joinWords s
  exact (IsDrawnFrom.of_subset hsub.subset).trans
    ((IsDrawnFrom.of_recased hcase).trans (.of_recased (hf.recased_mapFirst _)))

theorem isDrawnFrom_title (s : List Char) : IsDrawnFrom s (title s) := by
  intro d hd hcase
  rw [title_eq] at hd
  rcases mem_joinWith hd with hd | ⟨w, hw, hd⟩
  · rw [List.mem_singleton.1 hd]
    exact .inl (by decide)
  · obtain ⟨v, hv, rfl⟩ := List.mem_map.1 hw
    exact .inr (mem_of_mem_words hv (((recased_capitalizeWords false v).mem_iff hcase).1 hd))

theorem isDrawnFrom_apply (k : Convention) (s : List Char) : IsDrawnFrom s (k.apply s) := by
  cases k with
  | asIs => exact .of_subset fun _ hc => hc
  | snake => exact isDrawnFrom_separated isSeparator_snake s
  | kebab => exact isDrawnFrom_separated isSeparator_kebab s
  | camel => exact isDrawnFrom_mapFirst_joinWords isCasing_lower s
  | pascal => exact isDrawnFrom_mapFirst_joinWords isCasing_upper s
  | title => exact isDrawnFrom_title s
  | lower => exact .of_recased (recased_lower s)
  | upper => exact .of_recased (recased_upper s)

theorem isSeparator_of_mem_marks (h : d ∈ marks) : isSeparator d = true :=
  List.all_eq_true.1 (by decide : marks.all isSeparator = true) d h

theorem IsDrawnFrom.mem_of_mem (h : IsDrawnFrom s t) (hd : isUncased d = true)
    (hsep : isSeparator d = false) (hmem : d ∈ t) : d ∈ s := by
  refine (h d hmem hd).resolve_left fun hmark => ?_
  rw [isSeparator_of_mem_marks hmark] at hsep
  cases hsep

theorem IsDrawnFrom.eq_blank_or_mem (h : IsDrawnFrom s t) (hd : isBlank d = true) (hmem : d ∈ t) :
    d = ' ' ∨ d ∈ s := by
  refine (h d hmem (isBreak_of_isBlank hd).uncased).imp_left fun hmark => ?_
  revert hd
  simp only [marks, List.mem_cons, List.not_mem_nil, or_false] at hmark
  rcases hmark with rfl | rfl | rfl <;> decide

/-! ## Segments of a path -/

namespace Convention

theorem slash_notMem_apply (k : Convention) (h : '/' ∉ s) : '/' ∉ k.apply s := fun hmem =>
  h ((isDrawnFrom_apply k s).mem_of_mem (by decide) (by decide) hmem)

/-- A path keeps its segments, each of them converted. -/
theorem splitAt_applyToPath (k : Convention) (path : List Char) :
    splitAt '/' (k.applyToPath path) = (splitAt '/' path).map k.apply :=
  splitAt_joinWith_map_iff.2 (fun _ => k.slash_notMem_apply) path

theorem applyToPath_of_notMem (k : Convention) (h : '/' ∉ s) : k.applyToPath s = k.apply s := by
  rw [applyToPath, splitAt_of_notMem h, List.map_singleton, joinWith_singleton]

theorem applyToPath_append (k : Convention) (h : '/' ∉ s) (path : List Char) :
    k.applyToPath (s ++ '/' :: path) = k.apply s ++ '/' :: k.applyToPath path := by
  obtain ⟨p, ps, hps⟩ := List.exists_cons_of_ne_nil (splitAt_ne_nil '/' path)
  rw [applyToPath, splitAt_append h, applyToPath, hps, List.map_cons, List.map_cons,
    joinWith_cons_cons]
  simp

@[simp] theorem applyToPath_asIs (path : List Char) : Convention.asIs.applyToPath path = path := by
  have hmap : (splitAt '/' path).map Convention.asIs.apply = splitAt '/' path := List.map_id' _
  rw [applyToPath, hmap, joinWith_splitAt]

theorem applyToPath_append_eq_self_iff (h : '/' ∉ s) :
    k.applyToPath (s ++ '/' :: t) = s ++ '/' :: t ↔ k.apply s = s ∧ k.applyToPath t = t := by
  rw [k.applyToPath_append h, append_sep_inj (k.slash_notMem_apply h) h]

end Convention

theorem isDrawnFrom_applyToPath (k : Convention) (path : List Char) :
    IsDrawnFrom path (k.applyToPath path) := by
  induction path using segment_induction '/' with
  | segment s hs =>
      rw [k.applyToPath_of_notMem hs]
      exact isDrawnFrom_apply k s
  | step s path hs ih =>
      rw [k.applyToPath_append hs]
      intro d hd hcase
      rw [List.mem_append, List.mem_cons] at hd ⊢
      rcases hd with hd | rfl | hd
      · exact (isDrawnFrom_apply k s d hd hcase).imp_right .inl
      · exact .inr (.inr (.inl rfl))
      · exact (ih d hd hcase).imp_right fun h => .inr (.inr h)

/-- Separated words have no capitals. -/
theorem isUpper_of_mem_applyToPath (hk : k.Separates) {path : List Char}
    (hc : c ∈ k.applyToPath path) : c.isUpper = false := by
  obtain ⟨sep, other, hsep, happly⟩ := hk.exists_separated
  induction path using segment_induction '/' with
  | segment s hs =>
      rw [k.applyToPath_of_notMem hs, happly] at hc
      exact (isSpelledWith_separated hsep s).isUpper c hc
  | step s path hs ih =>
      rw [k.applyToPath_append hs, List.mem_append, List.mem_cons, happly] at hc
      rcases hc with hc | rfl | hc
      · exact (isSpelledWith_separated hsep s).isUpper c hc
      · decide
      · exact ih hc

/-! ## Conventions under their stored names -/

namespace Convention

theorem ofValue_value (k : Convention) : ofValue (Choice.value k) = k := by
  cases k <;> rfl

theorem ofValue_of_forall_ne {v : Value} (h : ∀ k : Convention, v ≠ Choice.value k) :
    ofValue v = .asIs := by
  rw [ofValue]
  cases hv : (Choice.ofValue? v : Option Convention) with
  | none => rfl
  | some k => exact absurd (Choice.eq_value_of_ofValue? hv) (h k)

/-- Converting a path never touches its slashes: there are as many segments as before, and each of
them is converted by itself, because no convention makes a slash. So it is for each convention under
its stored name, and for any other value, which changes nothing. -/
theorem applyToPath_segmentwise (v : Value) (path : List Char) :
    (∀ k : Convention, v = Choice.value k → ofValue v = k) ∧
      ((∀ k : Convention, v ≠ Choice.value k) → ∀ s, (ofValue v).apply s = s) ∧
      (∀ s, '/' ∉ s → '/' ∉ (ofValue v).apply s) ∧
      (splitAt '/' ((ofValue v).applyToPath path)).length = (splitAt '/' path).length ∧
      ∀ i : Nat, (splitAt '/' ((ofValue v).applyToPath path))[i]? =
        (splitAt '/' path)[i]?.map (ofValue v).apply := by
  have hsplit := (ofValue v).splitAt_applyToPath path
  refine ⟨?_, ?_, fun s => (ofValue v).slash_notMem_apply, ?_, ?_⟩
  · rintro k rfl
    exact ofValue_value k
  · intro hnone s
    rw [ofValue_of_forall_ne hnone]
    rfl
  · rw [hsplit, List.length_map]
  · intro i
    rw [hsplit, List.getElem?_map]

/-- Empty segments, a letter that becomes two, and a value that is no text. -/
theorem applyToPath_segmentwise_empty :
    Convention.ofValue (.text "UPPERCASE") = .upper ∧
      Convention.upper.applyToPath "/Maße//b/".toList = "/MASSE//B/".toList ∧
      (splitAt '/' "/MASSE//B/".toList)[1]? = some (Convention.upper.apply "Maße".toList) ∧
      (splitAt '/' "/MASSE//B/".toList).length = 5 ∧ '/' ∉ Convention.upper.apply "Maße".toList ∧
      (ofValue .null).apply "A b".toList = "A b".toList := by
  have hpath : Convention.upper.applyToPath "/Maße//b/".toList = "/MASSE//B/".toList := by
    decide +kernel
  obtain ⟨hname, -, hslash, hlength, hsegments⟩ :=
    applyToPath_segmentwise (.text "UPPERCASE") "/Maße//b/".toList
  obtain ⟨-, hnone, -⟩ := applyToPath_segmentwise .null []
  have hupper := hname .upper rfl
  rw [hupper] at hslash hlength hsegments
  rw [hpath] at hlength hsegments
  exact ⟨hupper, hpath, hsegments 1, hlength, hslash _ (by decide), hnone nofun _⟩

end Convention

/-! ## Conversions letter by letter -/

/-- The conventions that keep separators as they are. -/
def Convention.Recases (k : Convention) : Prop := k = .asIs ∨ k = .lower ∨ k = .upper

theorem Convention.Recases.applyToPath_eq_self_iff (hk : k.Recases) {path : List Char} :
    k.applyToPath path = path ↔ ∀ c ∈ path, k.apply [c] = [c] := by
  have hsegment : ∀ s : List Char, k.apply s = s ↔ ∀ c ∈ s, k.apply [c] = [c] := by
    intro s
    rcases hk with rfl | rfl | rfl
    · exact ⟨fun _ _ _ => rfl, fun _ => rfl⟩
    · exact ⟨fun h c hc => lower_of_mem_lower (h ▸ hc), lower_of_forall⟩
    · exact ⟨fun h c hc => upper_of_mem_upper (h ▸ hc), upper_of_forall⟩
  have hslash : k.apply ['/'] = ['/'] := by
    rcases hk with rfl | rfl | rfl <;> decide +kernel
  induction path using segment_induction '/' with
  | segment s hs => rw [k.applyToPath_of_notMem hs, hsegment]
  | step s path hs ih =>
      rw [Convention.applyToPath_append_eq_self_iff hs, hsegment, List.forall_mem_append,
        List.forall_mem_cons]
      exact and_congr_right fun _ => ih.trans (and_iff_right hslash).symm

/-! ## Converting twice -/

/-- What a convention has written it does not change again. -/
theorem apply_apply (h : k = .title → ∀ c ∈ s, HasPlainCapital c) :
    k.apply (k.apply s) = k.apply s := by
  cases k with
  | asIs => rfl
  | snake => exact separated_separated isSeparator_snake isSeparator_snake s
  | kebab => exact separated_separated isSeparator_kebab isSeparator_kebab s
  | camel => exact isCasing_lower.mapFirst_joinWords_twice s
  | pascal => exact isCasing_upper.mapFirst_joinWords_twice s
  | title => exact title_title (h rfl)
  | lower => exact lower_lower s
  | upper => exact upper_upper s

theorem applyToPath_applyToPath {path : List Char}
    (h : k = .title → ∀ c ∈ path, HasPlainCapital c) :
    k.applyToPath (k.applyToPath path) = k.applyToPath path := by
  induction path using segment_induction '/' with
  | segment s hs =>
      rw [k.applyToPath_of_notMem hs, k.applyToPath_of_notMem (k.slash_notMem_apply hs),
        apply_apply h]
  | step s path hs ih =>
      rw [k.applyToPath_append hs, Convention.applyToPath_append_eq_self_iff
        (k.slash_notMem_apply hs)]
      exact ⟨apply_apply fun hk c hc => h hk c (List.mem_append_left _ hc),
        ih fun hk c hc => h hk c (List.mem_append_right s (List.mem_cons_of_mem '/' hc))⟩

/-! ## White space at the ends -/

theorem isTrimmed_separated (h : IsSeparator sep other) (s : List Char) :
    IsTrimmed (separated sep other s) := .of_forall (isSpelledWith_separated h s).isBlank

theorem isTrimmed_title (s : List Char) : IsTrimmed (title s) := isTrimmed_trim _

/-- What a convention does not change stays so without the white space before it. -/
theorem apply_dropWhile_isBlank (h : k.apply s = s) :
    k.apply (s.dropWhile isBlank) = s.dropWhile isBlank := by
  have htrimmed : IsTrimmed (k.apply s) → k.apply (s.dropWhile isBlank) = s.dropWhile isBlank := by
    intro htrimmed
    rw [h] at htrimmed
    rw [dropWhile_of_head htrimmed.head, h]
  have hjoined : ∀ f, IsCasing f → (∀ s, k.apply s = mapFirst f (joinWords s)) →
      k.apply (s.dropWhile isBlank) = s.dropWhile isBlank := by
    intro f hf happly
    rw [happly] at h ⊢
    rcases (hf.isRunTogether_of_eq h).1.dropWhile_isBlank with hsame | hnone
    · rw [hsame, h]
    · rw [hnone, joinWords]
      rfl
  have hsub := List.dropWhile_sublist isBlank (l := s)
  cases k with
  | asIs => rfl
  | snake => exact htrimmed (isTrimmed_separated isSeparator_snake s)
  | kebab => exact htrimmed (isTrimmed_separated isSeparator_kebab s)
  | camel => exact hjoined lower isCasing_lower fun _ => rfl
  | pascal => exact hjoined upper isCasing_upper fun _ => rfl
  | title => exact htrimmed (isTrimmed_title s)
  | lower => exact lower_of_sublist hsub h
  | upper => exact upper_of_sublist hsub h

/-- What a convention does not change stays so without the white space behind it. -/
theorem apply_dropEndWhile_isBlank (h : k.apply s = s) :
    k.apply (dropEndWhile isBlank s) = dropEndWhile isBlank s := by
  have hfront := dropEndWhile_prefix_self isBlank s
  have htrimmed : IsTrimmed (k.apply s) →
      k.apply (dropEndWhile isBlank s) = dropEndWhile isBlank s := by
    intro htrimmed
    rw [h] at htrimmed
    rw [dropEndWhile_of_last htrimmed.last, h]
  have hhead : ∀ c ∈ (dropEndWhile isBlank s).head?, c ∈ s.head? := by
    obtain ⟨rest, hrest⟩ := hfront
    intro c hc
    rw [← hrest]
    exact List.mem_head?_append_of_mem_head? hc
  cases k with
  | asIs => rfl
  | snake => exact htrimmed (isTrimmed_separated isSeparator_snake s)
  | kebab => exact htrimmed (isTrimmed_separated isSeparator_kebab s)
  | camel => exact isCasing_lower.mapFirst_joinWords_of_sublist hfront.sublist hhead h
  | pascal => exact isCasing_upper.mapFirst_joinWords_of_sublist hfront.sublist hhead h
  | title => exact htrimmed (isTrimmed_title s)
  | lower => exact lower_of_sublist hfront.sublist h
  | upper => exact upper_of_sublist hfront.sublist h

theorem applyToPath_trim {path : List Char} (h : k.applyToPath path = path) :
    k.applyToPath (trim path) = trim path := by
  have hslash : isBlank '/' = false := by decide
  have hdrop : ∀ s : List Char, '/' ∉ s → '/' ∉ s.dropWhile isBlank := fun s hs hmem =>
    hs ((List.dropWhile_sublist isBlank).subset hmem)
  have hfirst : k.applyToPath (path.dropWhile isBlank) = path.dropWhile isBlank := by
    induction path using segment_induction '/' with
    | segment s hs =>
        rw [k.applyToPath_of_notMem hs] at h
        rw [k.applyToPath_of_notMem (hdrop s hs), apply_dropWhile_isBlank h]
    | step s path hs _ =>
        rw [Convention.applyToPath_append_eq_self_iff hs] at h
        rw [dropWhile_append_sep hslash, Convention.applyToPath_append_eq_self_iff (hdrop s hs)]
        exact ⟨apply_dropWhile_isBlank h.1, h.2⟩
  rw [trim, trimWhile]
  generalize path.dropWhile isBlank = rest at hfirst
  clear h
  induction rest using segment_induction '/' with
  | segment s hs =>
      have hs' : '/' ∉ dropEndWhile isBlank s := fun hmem =>
        hs ((dropEndWhile_prefix_self isBlank s).sublist.subset hmem)
      rw [k.applyToPath_of_notMem hs] at hfirst
      rw [k.applyToPath_of_notMem hs', apply_dropEndWhile_isBlank hfirst]
  | step s rest hs ih =>
      rw [Convention.applyToPath_append_eq_self_iff hs] at hfirst
      rw [dropEndWhile_append_sep hslash, Convention.applyToPath_append_eq_self_iff hs]
      exact ⟨hfirst.1, ih hfirst.2⟩

/-! ## Single blanks -/

/-- Where all white space is single blanks, a convention leaves no other. -/
theorem collapse_apply (h : collapse isBlank ' ' s = s) :
    collapse isBlank ' ' (k.apply s) = k.apply s := by
  have huncased : ∀ c, isBlank c = true → isUncased c = true := fun c hc =>
    (isBreak_of_isBlank hc).uncased
  have hjoined : ∀ f, IsCasing f →
      collapse isBlank ' ' (mapFirst f (joinWords s)) = mapFirst f (joinWords s) := by
    intro f hf
    refine (hf.isRunTogether_mapFirst (isRunTogether_joinWords s)).collapse_isBlank ?_
    intro c hc hblank
    refine ((isDrawnFrom_mapFirst_joinWords hf s).eq_blank_or_mem hblank hc).elim id fun hmem => ?_
    rw [← h] at hmem
    refine (mem_collapse hmem).resolve_right ?_
    rintro ⟨-, hnone⟩
    rw [hblank] at hnone
    cases hnone
  cases k with
  | asIs => exact h
  | snake => exact collapse_of_forall (isSpelledWith_separated isSeparator_snake s).isBlank
  | kebab => exact collapse_of_forall (isSpelledWith_separated isSeparator_kebab s).isBlank
  | camel => exact hjoined lower isCasing_lower
  | pascal => exact hjoined upper isCasing_upper
  | title => exact collapse_trim_collapse _
  | lower => exact (recased_lower s).collapse_eq_self huncased h
  | upper => exact (recased_upper s).collapse_eq_self huncased h

theorem collapse_applyToPath {path : List Char} (h : collapse isBlank ' ' path = path) :
    collapse isBlank ' ' (k.applyToPath path) = k.applyToPath path := by
  have hslash : isBlank '/' = false := by decide
  have hmark : '/' ≠ ' ' := by decide
  induction path using segment_induction '/' with
  | segment s hs =>
      rw [k.applyToPath_of_notMem hs]
      exact collapse_apply h
  | step s path hs ih =>
      obtain ⟨hfirst, hrest⟩ := (collapse_append_sep_eq_self_iff hslash hmark hs).1 h
      rw [k.applyToPath_append hs, collapse_append_sep_eq_self_iff hslash hmark
        (k.slash_notMem_apply hs)]
      exact ⟨collapse_apply hfirst, ih hrest⟩

/-! ## Separators are not multiplied -/

theorem countP_mapFirst_joinWords_le {f : List Char → List Char} (hf : IsCasing f)
    (s : List Char) : (mapFirst f (joinWords s)).countP isSeparator ≤ s.countP isSeparator := by
  have huncased : ∀ c, isSeparator c = true → isUncased c = true := fun _ hc =>
    isUncased_of_isSeparator hc
  obtain ⟨kept, hsub, hcase⟩ := exists_recased_joinWords s
  rw [(hf.recased_mapFirst _).countP_eq huncased, hcase.countP_eq huncased]
  exact hsub.countP_le

theorem countP_separated_le (h : IsSeparator sep other) (hs : ∀ c ∈ s, c.isUpper = false) :
    (separated sep other s).countP isSeparator ≤ s.countP isSeparator := by
  rw [separated_eq h, markCapitals_of_forall hs]
  calc (collapse isSeparator sep ((lower s).dropWhile isSeparator)).countP isSeparator
      ≤ ((lower s).dropWhile isSeparator).countP isSeparator := countP_collapse_le (fun _ hc => hc) _
    _ ≤ (lower s).countP isSeparator := (List.dropWhile_sublist _).countP_le
    _ = s.countP isSeparator :=
        (recased_lower s).countP_eq fun _ hc => isUncased_of_isSeparator hc

theorem countP_title_le (s : List Char) :
    (title s).countP isSeparator ≤ s.countP isSeparator := by
  have hmark : ∀ c, (c == '_' || c == '-') = true → isSeparator c = true := by
    intro c hc
    rw [isSeparator, Bool.or_assoc, hc, Bool.or_true]
  rw [title]
  generalize hspaced : collapse (fun c => c == '_' || c == '-') ' ' s = spaced
  calc (trim (collapse isBlank ' ' (capitalizeWords false spaced))).countP isSeparator
      ≤ (capitalizeWords false spaced).countP isSeparator := countP_trim_collapse_le _
    _ = spaced.countP isSeparator :=
        (recased_capitalizeWords false _).countP_eq fun _ hc => isUncased_of_isSeparator hc
    _ ≤ s.countP isSeparator := hspaced ▸ countP_collapse_le hmark s

/-- Only what is put before capitals adds to the separators of a text. -/
theorem countP_apply_le (h : k.Separates → ∀ c ∈ s, c.isUpper = false) :
    (k.apply s).countP isSeparator ≤ s.countP isSeparator := by
  have huncased : ∀ c, isSeparator c = true → isUncased c = true := fun _ hc =>
    isUncased_of_isSeparator hc
  cases k with
  | asIs => exact Nat.le_refl _
  | snake => exact countP_separated_le isSeparator_snake (h (.inr rfl))
  | kebab => exact countP_separated_le isSeparator_kebab (h (.inl rfl))
  | camel => exact countP_mapFirst_joinWords_le isCasing_lower s
  | pascal => exact countP_mapFirst_joinWords_le isCasing_upper s
  | title => exact countP_title_le s
  | lower => exact ((recased_lower s).countP_eq huncased).le
  | upper => exact ((recased_upper s).countP_eq huncased).le

theorem countP_applyToPath_le {path : List Char}
    (h : k.Separates → ∀ c ∈ path, c.isUpper = false) :
    (k.applyToPath path).countP isSeparator ≤ path.countP isSeparator := by
  induction path using segment_induction '/' with
  | segment s hs =>
      rw [k.applyToPath_of_notMem hs]
      exact countP_apply_le h
  | step s path hs ih =>
      have hfirst := countP_apply_le fun hk c hc => h hk c (List.mem_append_left _ hc)
      have hrest := ih fun hk c hc => h hk c (List.mem_append_right s (List.mem_cons_of_mem '/' hc))
      rw [k.applyToPath_append hs, List.countP_append, List.countP_append, List.countP_cons,
        List.countP_cons]
      omega

end FolderTag.Transform
