import FolderTag.Proofs.Transform.Identifier

/-! # Words that are run together

Running words together leaves no separator between them. What is left of one stands at the end,
with nothing but line breaks behind it. Such a text is not changed again. -/

namespace FolderTag.Transform

open FolderTag.Text

variable {c : Char} {s t cs : List Char} {f : List Char → List Char}

/-- Behind a separator there are only line breaks. -/
def IsRunTogether (s : List Char) : Prop := s.Pairwise fun a b => isSeparator a = true → b = '\n'

/-! ## What separators leave -/

/-- What is left of a closing run is one of its characters and the line breaks at its end. -/
theorem exists_closingRun (c : Char) (cs : List Char) :
    ∃ d breaks, closingRun (c :: cs) = d :: breaks ∧ (∀ b ∈ breaks, b = '\n') ∧
      (d :: breaks).Sublist (c :: cs) := by
  have hbreaks : ∀ b ∈ (cs.reverse.takeWhile (· == '\n')).reverse, b = '\n' := fun b hb =>
    beq_iff_eq.1 (List.all_eq_true.1 List.all_takeWhile b (List.mem_reverse.1 hb))
  have hsplit := congrArg List.reverse
    (List.takeWhile_append_dropWhile (p := (· == '\n')) (l := cs.reverse))
  rw [List.reverse_append, List.reverse_reverse] at hsplit
  rw [closingRun]
  cases hrest : cs.reverse.dropWhile (· == '\n') with
  | nil =>
      rw [hrest, List.reverse_nil, List.nil_append] at hsplit
      rw [hsplit] at hbreaks
      exact ⟨c, cs, rfl, hbreaks, List.Sublist.refl _⟩
  | cons last before =>
      rw [hrest, List.reverse_cons, List.append_assoc, List.singleton_append] at hsplit
      refine ⟨last, _, rfl, hbreaks, List.Sublist.cons c ?_⟩
      conv_rhs => rw [← hsplit]
      exact List.sublist_append_right _ _

theorem closingRun_of_forall (h : ∀ d ∈ cs, d = '\n') : closingRun (c :: cs) = c :: cs := by
  have hnone : cs.reverse.dropWhile (· == '\n') = [] :=
    List.dropWhile_eq_nil_iff.2 fun d hd => beq_iff_eq.2 (h d (List.mem_reverse.1 hd))
  rw [closingRun, hnone]

theorem joinWords_of_dropWhile_nil (hc : isSeparator c = true)
    (hrest : cs.dropWhile isSeparator = []) : joinWords (c :: cs) = closingRun (c :: cs) := by
  rw [joinWords, if_pos hc]
  split
  · rfl
  next hcons => rw [hrest] at hcons; cases hcons

theorem isSeparator_capital (hc : isSeparator c = false) :
    ∀ d ∈ capital c, isSeparator d = false :=
  (isCaseOf_upper c).forall_eq_false (fun _ hd => isUncased_of_isSeparator hd) hc

theorem isRunTogether_append {w : List Char} (hw : ∀ c ∈ w, isSeparator c = false)
    (hs : IsRunTogether s) : IsRunTogether (w ++ s) := by
  have hnone : ∀ a ∈ w, ∀ b : Char, isSeparator a = true → b = '\n' := by
    intro a ha b hsep
    rw [hw a ha] at hsep
    cases hsep
  exact List.pairwise_append.2 ⟨List.pairwise_of_forall_mem_list fun a ha b _ => hnone a ha b, hs,
    fun a ha b _ => hnone a ha b⟩

theorem isRunTogether_joinWords (s : List Char) : IsRunTogether (joinWords s) := by
  induction s using joinWords.induct with
  | case1 => simp [joinWords, IsRunTogether]
  | case2 c cs hc hrest =>
      obtain ⟨d, breaks, hclosing, hbreaks, -⟩ := exists_closingRun c cs
      rw [joinWords_of_dropWhile_nil hc hrest, hclosing]
      refine List.pairwise_cons.2 ⟨fun b hb _ => hbreaks b hb, ?_⟩
      exact List.pairwise_of_forall_mem_list fun a _ b hb _ => hbreaks b hb
  | case3 c cs hc x rest hrest ih =>
      have hx : isSeparator x = false := head?_dropWhile (by rw [hrest]; rfl)
      rw [joinWords_of_dropWhile hc hrest]
      exact isRunTogether_append (isSeparator_capital hx) ih
  | case4 c cs hc ih =>
      rw [Bool.not_eq_true] at hc
      rw [joinWords, if_neg (by simp [hc])]
      exact isRunTogether_append (w := [c]) (by simpa using hc) ih

/-- White space at the beginning is all that there is, or there is none. -/
theorem IsRunTogether.dropWhile_isBlank (h : IsRunTogether s) :
    s.dropWhile isBlank = s ∨ s.dropWhile isBlank = [] := by
  cases s with
  | nil => exact .inl rfl
  | cons c s =>
      cases hc : isBlank c with
      | false => exact .inl (dropWhile_of_head (by simpa using hc))
      | true =>
          refine .inr (List.dropWhile_eq_nil_iff.2 fun d hd => ?_)
          rcases List.mem_cons.1 hd with rfl | hd
          · exact hc
          · rw [(List.pairwise_cons.1 h).1 d hd (isSeparator_of_isBlank hc)]
            decide

/-- At most one blank is left if all white space is made of blanks. -/
theorem IsRunTogether.collapse_isBlank (h : IsRunTogether s)
    (hblank : ∀ c ∈ s, isBlank c = true → c = ' ') : collapse isBlank ' ' s = s := by
  induction s with
  | nil => exact collapse_nil
  | cons c s ih =>
      obtain ⟨hbehind, hs⟩ := List.pairwise_cons.1 h
      refine collapse_eq_self_of_cons (ih hs fun d hd => hblank d (List.mem_cons_of_mem c hd)) ?_
      intro hc
      refine ⟨hblank c List.mem_cons_self hc, fun d hd => ?_⟩
      have hmem := List.mem_of_mem_head? hd
      obtain rfl := hbehind d hmem (isSeparator_of_isBlank hc)
      exact absurd (hblank '\n' (List.mem_cons_of_mem c hmem) (by decide)) (by decide)

theorem joinWords_of_isRunTogether (h : IsRunTogether s) : joinWords s = s := by
  induction s with
  | nil => rw [joinWords]
  | cons c s ih =>
      obtain ⟨hbehind, hs⟩ := List.pairwise_cons.1 h
      by_cases hc : isSeparator c = true
      · have hbreaks : ∀ d ∈ s, d = '\n' := fun d hd => hbehind d hd hc
        have hrest : s.dropWhile isSeparator = [] :=
          List.dropWhile_eq_nil_iff.2 fun d hd => by rw [hbreaks d hd]; decide
        rw [joinWords_of_dropWhile_nil hc hrest, closingRun_of_forall hbreaks]
      · rw [joinWords, if_neg hc, ih hs]

/-- Running words together drops characters and capitalizes some of those that stay. -/
theorem exists_recased_joinWords (s : List Char) :
    ∃ kept, kept.Sublist s ∧ Recased kept (joinWords s) := by
  induction s using joinWords.induct with
  | case1 => exact ⟨[], List.Sublist.refl _, by rw [joinWords]; exact .nil⟩
  | case2 c cs hc hrest =>
      obtain ⟨d, breaks, hclosing, -, hsub⟩ := exists_closingRun c cs
      rw [joinWords_of_dropWhile_nil hc hrest, hclosing]
      exact ⟨d :: breaks, hsub, recased_self _⟩
  | case3 c cs hc x rest hrest ih =>
      obtain ⟨kept, hsub, hcase⟩ := ih
      have hdrop : (x :: rest).Sublist cs := hrest ▸ List.dropWhile_sublist isSeparator
      rw [joinWords_of_dropWhile hc hrest]
      exact ⟨x :: kept, ((hsub.cons_cons x).trans hdrop).cons c, .cons (isCaseOf_upper x) hcase⟩
  | case4 c cs hc ih =>
      obtain ⟨kept, hsub, hcase⟩ := ih
      rw [joinWords, if_neg hc]
      exact ⟨c :: kept, hsub.cons_cons c, .cons (isCaseOf_self c) hcase⟩

/-! ## The first letter -/

/-- A way of writing single characters in another case. -/
structure IsCasing (f : List Char → List Char) : Prop where
  isCaseOf : ∀ c, IsCaseOf c (f [c])
  settled : ∀ c, ∀ d ∈ f [c], f [d] = [d]

theorem isCasing_lower : IsCasing lower := ⟨isCaseOf_lower, fun _ _ hd => lower_of_mem_singleton hd⟩

theorem isCasing_upper : IsCasing upper := ⟨isCaseOf_upper, fun _ _ hd => upper_of_mem_singleton hd⟩

theorem mapFirst_joinWords_of_isRunTogether (h : IsRunTogether s)
    (hhead : ∀ c ∈ s.head?, f [c] = [c]) : mapFirst f (joinWords s) = s := by
  rw [joinWords_of_isRunTogether h]
  cases s with
  | nil => rfl
  | cons c s => rw [mapFirst, hhead c rfl, List.singleton_append]

namespace IsCasing

variable (hf : IsCasing f)

include hf

theorem recased_mapFirst (s : List Char) : Recased s (mapFirst f s) := by
  cases s with
  | nil => exact .nil
  | cons c s => exact .cons (hf.isCaseOf c) (recased_self s)

theorem isRunTogether_mapFirst (h : IsRunTogether s) : IsRunTogether (mapFirst f s) := by
  cases s with
  | nil => exact h
  | cons c s =>
      cases hc : isSeparator c with
      | true => rwa [mapFirst, (hf.isCaseOf c).eq_singleton (isUncased_of_isSeparator hc)]
      | false =>
          refine isRunTogether_append ?_ (List.pairwise_cons.1 h).2
          exact (hf.isCaseOf c).forall_eq_false (fun _ hd => isUncased_of_isSeparator hd) hc

theorem eq_of_head?_mapFirst (s : List Char) : ∀ c ∈ (mapFirst f s).head?, f [c] = [c] := by
  cases s with
  | nil => simp [mapFirst]
  | cons c s =>
      intro d hd
      rw [mapFirst, List.head?_append_of_ne_nil _ (hf.isCaseOf c).ne_nil] at hd
      exact hf.settled c d (List.mem_of_mem_head? hd)

theorem isRunTogether_of_eq (h : mapFirst f (joinWords s) = s) :
    IsRunTogether s ∧ ∀ c ∈ s.head?, f [c] = [c] := by
  rw [← h]
  exact ⟨hf.isRunTogether_mapFirst (isRunTogether_joinWords s), hf.eq_of_head?_mapFirst _⟩

/-- A part that begins as the whole does is not changed, either. -/
theorem mapFirst_joinWords_of_sublist (hsub : t.Sublist s) (hhead : ∀ c ∈ t.head?, c ∈ s.head?)
    (h : mapFirst f (joinWords s) = s) : mapFirst f (joinWords t) = t := by
  obtain ⟨hjoined, hfirst⟩ := hf.isRunTogether_of_eq h
  exact mapFirst_joinWords_of_isRunTogether (hjoined.sublist hsub)
    fun c hc => hfirst c (hhead c hc)

/-- A text that has been run together is not changed again. -/
theorem mapFirst_joinWords_twice (s : List Char) :
    mapFirst f (joinWords (mapFirst f (joinWords s))) = mapFirst f (joinWords s) :=
  mapFirst_joinWords_of_isRunTogether
    (hf.isRunTogether_mapFirst (isRunTogether_joinWords s)) (hf.eq_of_head?_mapFirst _)

end IsCasing

end FolderTag.Transform
