import FolderTag.Proofs.Text.Blank
import Mathlib.Data.List.Chain
import Mathlib.Data.List.TakeWhile

/-! # Collapsed texts, their words and their segments

Collapsing keeps what is between the runs, so that collapsing by more characters afterwards is the
same as doing it at once. What a text says apart from its runs are its words. A text is spaced when
all white space in it is single blanks between its words. -/

namespace FolderTag.Text

variable {p q : Char → Bool} {mark other c : Char} {s t w : List Char}

/-- A text is a word, or a word and a mark in front of a text. -/
@[elab_as_elim]
theorem text_induction (p : Char → Bool) {motive : List Char → Prop}
    (word : ∀ w, (∀ c ∈ w, p c = false) → motive w)
    (step : ∀ w c s, (∀ d ∈ w, p d = false) → p c = true → motive s → motive (w ++ c :: s))
    (s : List Char) : motive s := by
  induction hn : s.length using Nat.strongRecOn generalizing s with
  | ind n ih =>
      have hword : ∀ c ∈ s.takeWhile (!p ·), p c = false := fun c hc => by
        simpa using List.all_eq_true.1 List.all_takeWhile c hc
      have hsplit := List.takeWhile_append_dropWhile (p := (!p ·)) (l := s)
      cases hrest : s.dropWhile (!p ·) with
      | nil =>
          rw [hrest, List.append_nil] at hsplit
          rw [← hsplit]
          exact word _ hword
      | cons c rest =>
          have hc := head?_dropWhile (p := (!p ·)) (s := s) (c := c) (by rw [hrest]; rfl)
          rw [Bool.not_eq_false'] at hc
          rw [hrest] at hsplit
          rw [← hsplit]
          refine step _ c rest hword hc (ih rest.length ?_ rest rfl)
          rw [← hn, ← hsplit, List.length_append, List.length_cons]
          omega

/-- Dropping by more characters afterwards is the same as doing it at once. -/
theorem dropWhile_dropWhile (h : ∀ c, p c = true → q c = true) (s : List Char) :
    (s.dropWhile p).dropWhile q = s.dropWhile q := by
  induction s with
  | nil => rfl
  | cons c s ih =>
      by_cases hc : p c = true
      · rw [List.dropWhile_cons, if_pos hc, ih, List.dropWhile_cons, if_pos (h c hc)]
      · rw [List.dropWhile_cons, if_neg hc]

/-! ## What is left -/

theorem collapse_nil : collapse p mark [] = [] := by rw [collapse]

theorem collapse_of_pos (hc : p c = true) (s : List Char) :
    collapse p mark (c :: s) = mark :: collapse p mark (s.dropWhile p) := by
  rw [collapse, if_pos hc]

theorem collapse_of_neg (hc : p c = false) (s : List Char) :
    collapse p mark (c :: s) = c :: collapse p mark s := by
  rw [collapse, if_neg (by simp [hc])]

theorem collapse_of_forall (h : ∀ c ∈ s, p c = false) : collapse p mark s = s := by
  have hall : collapse p mark (s ++ []) = s ++ collapse p mark [] := collapse_append h []
  rwa [List.append_nil, collapse_nil, List.append_nil] at hall

theorem mem_collapse (h : c ∈ collapse p mark s) : c = mark ∨ c ∈ s ∧ p c = false := by
  induction s using collapse.induct p with
  | case1 => simp [collapse_nil] at h
  | case2 d s hd ih =>
      rw [collapse_of_pos hd, List.mem_cons] at h
      rcases h with rfl | h
      · exact .inl rfl
      · refine (ih h).imp_right fun ⟨hmem, hc⟩ => ⟨?_, hc⟩
        exact List.mem_cons_of_mem d ((List.dropWhile_sublist p).subset hmem)
  | case3 d s hd ih =>
      rw [Bool.not_eq_true] at hd
      rw [collapse_of_neg hd, List.mem_cons] at h
      rcases h with rfl | h
      · exact .inr ⟨List.mem_cons_self, hd⟩
      · exact (ih h).imp_right fun ⟨hmem, hc⟩ => ⟨List.mem_cons_of_mem d hmem, hc⟩

theorem head?_collapse (h : ∀ c ∈ s.head?, p c = false) :
    (collapse p mark s).head? = s.head? := by
  cases s with
  | nil => rw [collapse_nil]
  | cons c s => rw [collapse_of_neg (h c rfl)]; rfl

theorem collapse_append_cons (hc : p c = false) (s t : List Char) :
    collapse p mark (s ++ c :: t) = collapse p mark s ++ c :: collapse p mark t := by
  induction s using collapse.induct p with
  | case1 => rw [collapse_nil, List.nil_append, List.nil_append, collapse_of_neg hc]
  | case2 d s hd ih =>
      have hdrop : (s ++ c :: t).dropWhile p = s.dropWhile p ++ c :: t := by
        rw [List.dropWhile_append]
        split_ifs with hempty
        · rw [List.isEmpty_iff.1 hempty, List.dropWhile_cons, if_neg (by simp [hc]), List.nil_append]
        · rfl
      rw [List.cons_append, collapse_of_pos hd, collapse_of_pos hd, hdrop, ih, List.cons_append]
  | case3 d s hd ih =>
      rw [Bool.not_eq_true] at hd
      rw [List.cons_append, collapse_of_neg hd, collapse_of_neg hd, ih, List.cons_append]

/-- No two marks stand beside each other in a collapsed text. -/
theorem isChain_collapse (s : List Char) :
    (collapse p mark s).IsChain fun a b => ¬ (p a = true ∧ p b = true) := by
  induction s using collapse.induct p with
  | case1 => simp [collapse_nil]
  | case2 c s hc ih =>
      rw [collapse_of_pos hc, List.isChain_cons]
      refine ⟨fun d hd hboth => ?_, ih⟩
      rw [head?_collapse fun e he => head?_dropWhile he] at hd
      rw [head?_dropWhile hd] at hboth
      cases hboth.2
  | case3 c s hc ih =>
      rw [Bool.not_eq_true] at hc
      rw [collapse_of_neg hc, List.isChain_cons]
      exact ⟨fun d _ hboth => by simp [hc] at hboth, ih⟩

/-! ## Collapsing twice -/

/-- A run of a collapsed text was a run of what is in it and of what was collapsed. -/
theorem dropWhile_collapse (hmark : q mark = true) (s : List Char) :
    (collapse p mark s).dropWhile q = collapse p mark (s.dropWhile fun c => p c || q c) := by
  induction s using collapse.induct p with
  | case1 => simp [collapse_nil]
  | case2 c s hc ih =>
      rw [collapse_of_pos hc, List.dropWhile_cons, if_pos hmark, ih,
        dropWhile_dropWhile fun d hd => by rw [hd, Bool.true_or], List.dropWhile_cons,
        if_pos (by rw [hc, Bool.true_or])]
  | case3 c s hc ih =>
      rw [Bool.not_eq_true] at hc
      rw [collapse_of_neg hc, List.dropWhile_cons, List.dropWhile_cons, hc, Bool.false_or]
      split_ifs with hq
      · exact ih
      · rw [collapse_of_neg hc]

/-- Collapsing by more characters afterwards is the same as doing it at once. -/
theorem collapse_collapse (hq : q other = true) (s : List Char) :
    collapse q mark (collapse p other s) = collapse (fun c => p c || q c) mark s := by
  induction s using collapse.induct fun c => p c || q c with
  | case1 => rw [collapse_nil, collapse_nil, collapse_nil]
  | case2 c s hc ih =>
      rw [collapse_of_pos (p := fun c => p c || q c) hc, ← ih, ← dropWhile_collapse hq]
      cases hp : p c with
      | true =>
          rw [collapse_of_pos hp, collapse_of_pos hq, dropWhile_collapse hq, dropWhile_collapse hq,
            dropWhile_dropWhile fun d hd => by rw [hd, Bool.true_or]]
      | false =>
          rw [hp, Bool.false_or] at hc
          rw [collapse_of_neg hp, collapse_of_pos hc]
  | case3 c s hc ih =>
      rw [Bool.not_eq_true, Bool.or_eq_false_iff] at hc
      rw [collapse_of_neg hc.1, collapse_of_neg hc.2, ih,
        collapse_of_neg (p := fun c => p c || q c) (by rw [hc.1, hc.2, Bool.or_false])]

/-- It does not matter which characters a run is made of. -/
theorem collapse_map {f : Char → Char} (hf : ∀ c, p (f c) = p c)
    (hkeep : ∀ c, p c = false → f c = c) (s : List Char) :
    collapse p mark (s.map f) = collapse p mark s := by
  have hcomp : p ∘ f = p := funext hf
  induction s using collapse.induct p with
  | case1 => rfl
  | case2 c s hc ih =>
      rw [List.map_cons, collapse_of_pos ((hf c).trans hc), collapse_of_pos hc, List.dropWhile_map,
        hcomp, ih]
  | case3 c s hc ih =>
      rw [Bool.not_eq_true] at hc
      rw [List.map_cons, hkeep c hc, collapse_of_neg hc, collapse_of_neg hc, ih]

/-! ## Texts that collapsing keeps -/

theorem collapse_cons_eq_self (h : collapse p mark (c :: s) = c :: s) :
    collapse p mark s = s ∧ (p c = true → c = mark ∧ ∀ d ∈ s.head?, p d = false) := by
  cases hc : p c with
  | false =>
      rw [collapse_of_neg hc, List.cons.injEq] at h
      exact ⟨h.2, fun htrue => by cases htrue⟩
  | true =>
      rw [collapse_of_pos hc, List.cons.injEq] at h
      have hhead : ∀ d ∈ s.head?, p d = false := by
        intro d hd
        rw [← h.2, head?_collapse fun e he => head?_dropWhile he] at hd
        exact head?_dropWhile hd
      rw [dropWhile_of_head hhead] at h
      exact ⟨h.2, fun _ => ⟨h.1.symm, hhead⟩⟩

theorem collapse_eq_self_of_cons (hs : collapse p mark s = s)
    (hc : p c = true → c = mark ∧ ∀ d ∈ s.head?, p d = false) :
    collapse p mark (c :: s) = c :: s := by
  cases hpc : p c with
  | false => rw [collapse_of_neg hpc, hs]
  | true =>
      obtain ⟨rfl, hhead⟩ := hc hpc
      rw [collapse_of_pos hpc, dropWhile_of_head hhead, hs]

/-- Collapsing keeps a text exactly if all of its runs are single marks. -/
theorem collapse_eq_self_iff :
    collapse p mark s = s ↔ ∀ before c after, s = before ++ c :: after → p c = true →
      c = mark ∧ ∀ d ∈ after.head?, p d = false := by
  induction s with
  | nil => simp [collapse_nil]
  | cons c s ih =>
      constructor
      · intro h before d after hs hd
        obtain ⟨hrest, hfirst⟩ := collapse_cons_eq_self h
        cases before with
        | nil =>
            obtain ⟨rfl, rfl⟩ := List.cons.inj hs
            exact hfirst hd
        | cons b before => exact ih.1 hrest before d after (List.cons.inj hs).2 hd
      · intro h
        have hrest : collapse p mark s = s := by
          apply ih.2
          intro before d after hs
          exact h (c :: before) d after (by rw [hs, List.cons_append])
        exact collapse_eq_self_of_cons hrest (h [] c s rfl)

/-- What collapsing keeps it keeps in parts. -/
theorem collapse_eq_self_of_part (h : s <:+: t) (ht : collapse p mark t = t) :
    collapse p mark s = s := by
  obtain ⟨front, rest, rfl⟩ := h
  apply collapse_eq_self_iff.2
  intro before c after hs hc
  obtain ⟨hmark, hbehind⟩ :=
    collapse_eq_self_iff.1 ht (front ++ before) c (after ++ rest) (by simp [hs]) hc
  exact ⟨hmark, fun d hd => hbehind d (List.mem_head?_append_of_mem_head? hd)⟩

/-- Where runs can only be runs of the mark, collapsing takes characters out. -/
theorem collapse_sublist (h : ∀ c ∈ s, p c = true → c = mark) : (collapse p mark s).Sublist s := by
  induction s using collapse.induct p with
  | case1 => rw [collapse_nil]
  | case2 c s hc ih =>
      obtain rfl := h c List.mem_cons_self hc
      rw [collapse_of_pos hc]
      have hdrop := List.dropWhile_sublist p (l := s)
      exact ((ih fun d hd => h d (List.mem_cons_of_mem c (hdrop.subset hd))).trans hdrop).cons_cons c
  | case3 c s hc ih =>
      rw [Bool.not_eq_true] at hc
      rw [collapse_of_neg hc]
      exact (ih fun d hd => h d (List.mem_cons_of_mem c hd)).cons_cons c

section Filter

variable (hp : ∀ c, p c = true → q c = false)

include hp

theorem filter_dropWhile (s : List Char) : (s.dropWhile p).filter q = s.filter q := by
  induction s with
  | nil => rfl
  | cons c s ih =>
      rw [List.dropWhile_cons]
      split_ifs with hc
      · rw [ih, List.filter_cons_of_neg (by simp [hp c hc])]
      · rfl

theorem filter_trimWhile (s : List Char) : (trimWhile p s).filter q = s.filter q := by
  rw [trimWhile, dropEndWhile, List.filter_reverse, filter_dropWhile hp, ← List.filter_reverse,
    List.reverse_reverse, filter_dropWhile hp]

/-- Collapsing takes nothing out but what it is told to. -/
theorem filter_collapse (hmark : q mark = false) (s : List Char) :
    (collapse p mark s).filter q = s.filter q := by
  induction s using collapse.induct p with
  | case1 => rw [collapse_nil]
  | case2 c s hc ih =>
      rw [collapse_of_pos hc, List.filter_cons_of_neg (by simp [hmark]), ih, filter_dropWhile hp,
        List.filter_cons_of_neg (by simp [hp c hc])]
  | case3 c s hc ih =>
      rw [Bool.not_eq_true] at hc
      rw [collapse_of_neg hc, List.filter_cons, List.filter_cons, ih]

end Filter

/-- What takes out characters that count takes out none if the count is the same. -/
theorem eq_of_sublist_of_countP_eq (hsub : t.Sublist s) (hcount : t.countP q = s.countP q)
    (hrest : t.filter (fun c => !q c) = s.filter fun c => !q c) : t = s := by
  refine hsub.eq_of_length ?_
  have hother := congrArg List.length hrest
  rw [← List.countP_eq_length_filter, ← List.countP_eq_length_filter] at hother
  rw [List.length_eq_countP_add_countP q, List.length_eq_countP_add_countP q (l := s), hcount]
  simpa using hother

/-- Collapsing puts one mark in the place of at least one character that counts as much. -/
theorem countP_collapse_le (hp : ∀ c, p c = true → q c = true) (s : List Char) :
    (collapse p mark s).countP q ≤ s.countP q := by
  induction s using collapse.induct p with
  | case1 => rw [collapse_nil]
  | case2 c s hc ih =>
      have hdrop := (List.dropWhile_sublist p (l := s)).countP_le (p := q)
      have hmark : List.countP q [mark] ≤ 1 := List.countP_le_length
      rw [collapse_of_pos hc, ← List.singleton_append, List.countP_append,
        List.countP_cons_of_pos (hp c hc)]
      omega
  | case3 c s hc ih =>
      rw [Bool.not_eq_true] at hc
      rw [collapse_of_neg hc, List.countP_cons, List.countP_cons]
      omega

/-! ## Words -/

/-- The words of a text: what stands between the characters that satisfy `p`, where it is not
empty. -/
def words (p : Char → Bool) (s : List Char) : List (List Char) :=
  (s.splitOnP p).filter fun w => !w.isEmpty

theorem words_append_cons (hc : p c = true) (s t : List Char) :
    words p (s ++ c :: t) = words p s ++ words p t := by
  rw [words, List.splitOnP_append_cons s t hc, List.filter_append]
  rfl

theorem words_cons (hc : p c = true) (s : List Char) : words p (c :: s) = words p s := by
  simpa [words] using words_append_cons hc [] s

theorem words_of_forall (h : ∀ c ∈ w, p c = false) : words p w = if w.isEmpty then [] else [w] := by
  rw [words, List.splitOnP_eq_singleton h]
  cases w <;> rfl

theorem words_dropWhile (s : List Char) : words p (s.dropWhile p) = words p s := by
  induction s with
  | nil => rfl
  | cons c s ih =>
      rw [List.dropWhile_cons]
      split_ifs with hc
      · rw [ih, words_cons hc]
      · rfl

/-- Words are not empty and hold nothing of what separates them. -/
theorem forall_mem_words : ∀ w ∈ words p s, w ≠ [] ∧ ∀ c ∈ w, p c = false := by
  induction s using text_induction p with
  | word w hw =>
      rw [words_of_forall hw]
      cases w with
      | nil => simp
      | cons c w => simpa using hw
  | step w c s hw hc ih =>
      rw [words_append_cons hc, words_of_forall hw]
      intro v hv
      rcases List.mem_append.1 hv with hv | hv
      · cases w with
        | nil => cases hv
        | cons d w =>
            rw [List.mem_singleton.1 hv]
            exact ⟨List.cons_ne_nil d w, hw⟩
      · exact ih v hv

theorem mem_of_mem_words (hw : w ∈ words p s) (hc : c ∈ w) : c ∈ s := by
  induction s using text_induction p with
  | word v hv =>
      rw [words_of_forall hv] at hw
      cases v with
      | nil => cases hw
      | cons d v => rwa [List.mem_singleton.1 hw] at hc
  | step v d s hv hd ih =>
      rw [words_append_cons hd, words_of_forall hv] at hw
      rcases List.mem_append.1 hw with hw | hw
      · cases v with
        | nil => cases hw
        | cons e v => exact List.mem_append_left _ (List.mem_singleton.1 hw ▸ hc)
      · exact List.mem_append_right v (List.mem_cons_of_mem d (ih hw))

/-- The words of a collapsed text are what neither kind of run reaches. -/
theorem words_collapse_or (hmark : q mark = true) (s : List Char) :
    words q (collapse p mark s) = words (fun c => p c || q c) s := by
  -- A run that is left out at the beginning holds no word.
  have hrun : ∀ s : List Char,
      words q (collapse p mark (s.dropWhile p)) = words q (collapse p mark s) := by
    intro s
    rw [← words_dropWhile, dropWhile_collapse hmark,
      dropWhile_dropWhile fun c hc => by rw [hc, Bool.true_or], ← dropWhile_collapse hmark,
      words_dropWhile]
  induction s using text_induction fun c => p c || q c with
  | word w hw =>
      have hp : ∀ c ∈ w, p c = false := fun c hc => (Bool.or_eq_false_iff.1 (hw c hc)).1
      have hq : ∀ c ∈ w, q c = false := fun c hc => (Bool.or_eq_false_iff.1 (hw c hc)).2
      rw [collapse_of_forall hp, words_of_forall hq, words_of_forall hw]
  | step w c s hw hc ih =>
      have hp : ∀ c ∈ w, p c = false := fun c hc => (Bool.or_eq_false_iff.1 (hw c hc)).1
      have hq : ∀ c ∈ w, q c = false := fun c hc => (Bool.or_eq_false_iff.1 (hw c hc)).2
      rw [collapse_append hp, words_append_cons (p := fun c => p c || q c) hc, words_of_forall hw,
        ← words_of_forall hq, ← ih]
      cases hpc : p c with
      | true => rw [collapse_of_pos hpc, words_append_cons hmark, hrun]
      | false =>
          rw [hpc, Bool.false_or] at hc
          rw [collapse_of_neg hpc, words_append_cons hc]

theorem words_collapse (hmark : p mark = true) (s : List Char) :
    words p (collapse p mark s) = words p s := by
  simpa using words_collapse_or (p := p) hmark s

theorem words_joinWith {ws : List (List Char)} (hmark : p mark = true)
    (h : ∀ w ∈ ws, w ≠ [] ∧ ∀ c ∈ w, p c = false) : words p (joinWith [mark] ws) = ws := by
  have hone : ∀ w ∈ ws, words p w = [w] := by
    intro w hw
    rw [words_of_forall (h w hw).2, if_neg (by simpa using (h w hw).1)]
  induction ws with
  | nil => rfl
  | cons w ws ih =>
      have hw := hone w List.mem_cons_self
      cases ws with
      | nil => rw [joinWith_singleton, hw]
      | cons v ws =>
          rw [joinWith_cons_cons, List.append_assoc, List.singleton_append,
            words_append_cons hmark, hw, ih (fun u hu => h u (List.mem_cons_of_mem w hu))
              fun u hu => hone u (List.mem_cons_of_mem w hu)]
          rfl

theorem words_append_run {run : List Char} (h : ∀ c ∈ run, p c = true) :
    words p (s ++ run) = words p s := by
  cases run with
  | nil => rw [List.append_nil]
  | cons c run =>
      have hdrop : run.dropWhile p = [] :=
        List.dropWhile_eq_nil_iff.2 fun d hd => h d (List.mem_cons_of_mem c hd)
      rw [words_append_cons (h c List.mem_cons_self), ← words_dropWhile run, hdrop]
      exact List.append_nil _

theorem infix_trimWhile (p : Char → Bool) (s : List Char) : trimWhile p s <:+: s :=
  (dropEndWhile_prefix_self p (s.dropWhile p)).isInfix.trans (List.dropWhile_suffix p).isInfix

theorem words_trimWhile (s : List Char) : words p (trimWhile p s) = words p s := by
  have hend : ∀ t : List Char, words p (dropEndWhile p t) = words p t := by
    intro t
    have hsplit := congrArg List.reverse (List.takeWhile_append_dropWhile (p := p) (l := t.reverse))
    rw [List.reverse_append, List.reverse_reverse] at hsplit
    rw [dropEndWhile]
    conv_rhs => rw [← hsplit]
    refine (words_append_run fun c hc => ?_).symm
    exact List.all_eq_true.1 List.all_takeWhile c (List.mem_reverse.1 hc)
  rw [trimWhile, hend, words_dropWhile]

/-- A text that collapsing keeps, with no run at its ends, is its words with the mark between. -/
theorem eq_joinWith_words (hs : collapse p mark s = s) (hhead : ∀ c ∈ s.head?, p c = false)
    (hlast : ∀ c ∈ s.getLast?, p c = false) : s = joinWith [mark] (words p s) := by
  induction s using text_induction p with
  | word w hw =>
      rw [words_of_forall hw]
      cases w with
      | nil => rfl
      | cons c w => exact (joinWith_singleton _ _).symm
  | step w c s hw hc ih =>
      have hne : w ≠ [] := by
        rintro rfl
        rw [hhead c rfl] at hc
        cases hc
      obtain ⟨hrest, hrun⟩ := collapse_cons_eq_self
        (collapse_eq_self_of_part (List.suffix_append w (c :: s)).isInfix hs)
      obtain ⟨rfl, hsecond⟩ := hrun hc
      have hlast' : ∀ d ∈ s.getLast?, p d = false := by
        intro d hd
        apply hlast d
        rw [List.getLast?_append, List.getLast?_cons, Option.mem_def.1 hd]
        rfl
      have hjoin := ih hrest hsecond hlast'
      rw [words_append_cons hc, words_of_forall hw, if_neg (by simpa using hne)]
      cases hwords : words p s with
      | nil =>
          rw [hwords] at hjoin
          subst hjoin
          rw [List.getLast?_append] at hlast
          rw [hlast c rfl] at hc
          cases hc
      | cons v vs =>
          rw [hwords] at hjoin
          rw [List.singleton_append, joinWith_cons_cons, ← hjoin]
          simp

theorem collapse_trim_collapse (s : List Char) :
    collapse isBlank ' ' (trim (collapse isBlank ' ' s)) = trim (collapse isBlank ' ' s) := by
  have htwice : collapse isBlank ' ' (collapse isBlank ' ' s) =
      collapse (fun c => isBlank c || isBlank c) ' ' s := collapse_collapse (by decide) s
  simp only [Bool.or_self] at htwice
  exact collapse_eq_self_of_part (infix_trimWhile isBlank _) htwice

/-- The words of a text with single blanks between them. -/
theorem trim_collapse (s : List Char) :
    trim (collapse isBlank ' ' s) = joinWith [' '] (words isBlank s) := by
  have hblank : isBlank ' ' = true := by decide
  have htrimmed := isTrimmed_trim (collapse isBlank ' ' s)
  have hwords : words isBlank (trim (collapse isBlank ' ' s)) = words isBlank s := by
    rw [trim, words_trimWhile, words_collapse hblank]
  rw [← hwords]
  exact eq_joinWith_words (collapse_trim_collapse s) htrimmed.head htrimmed.last

/-! ## Segments

A text is its segments with a separator between them. What is dropped or collapsed and is not the
separator stays within a segment. -/

section Segments

variable {sep : Char} {p u : List Char}

/-- A text is a segment, or a segment and a separator in front of a text. -/
@[elab_as_elim]
theorem segment_induction (sep : Char) {motive : List Char → Prop}
    (segment : ∀ p, sep ∉ p → motive p)
    (step : ∀ p s, sep ∉ p → motive s → motive (p ++ sep :: s)) (s : List Char) : motive s := by
  have hmem : ∀ p : List Char, (∀ c ∈ p, (c == sep) = false) → sep ∉ p := fun p hp hsep => by
    have := hp sep hsep
    rw [beq_self_eq_true] at this
    cases this
  induction s using text_induction (· == sep) with
  | word p hp => exact segment p (hmem p hp)
  | step p c s hp hc ih =>
      rw [beq_iff_eq] at hc
      rw [hc]
      exact step p s (hmem p hp) ih

/-- Joining undoes splitting. -/
theorem joinWith_splitAt (sep : Char) (s : List Char) : joinWith [sep] (splitAt sep s) = s := by
  induction s using segment_induction sep with
  | segment p hp => rw [splitAt_of_notMem hp, joinWith_singleton]
  | step p s hp ih =>
      obtain ⟨q, qs, hqs⟩ := List.exists_cons_of_ne_nil (splitAt_ne_nil sep s)
      rw [splitAt_append hp, hqs, joinWith_cons_cons, ← hqs, ih]
      simp

theorem sep_notMem_of_mem_splitAt (hp : p ∈ splitAt sep s) : sep ∉ p := by
  induction s using segment_induction sep with
  | segment q hq =>
      rw [splitAt_of_notMem hq, List.mem_singleton] at hp
      rwa [hp]
  | step q s hq ih =>
      rw [splitAt_append hq, List.mem_cons] at hp
      rcases hp with rfl | hp
      · exact hq
      · exact ih hp

/-- What is done to each segment keeps the segments of all texts exactly if it makes no separator in
a segment. -/
theorem splitAt_joinWith_map_iff {f : List Char → List Char} :
    (∀ s, splitAt sep (joinWith [sep] ((splitAt sep s).map f)) = (splitAt sep s).map f) ↔
      ∀ p, sep ∉ p → sep ∉ f p := by
  constructor
  · intro h p hp
    have hsplit := h p
    rw [splitAt_of_notMem hp, List.map_singleton, joinWith_singleton] at hsplit
    exact sep_notMem_of_mem_splitAt (hsplit ▸ List.mem_singleton_self (f p))
  · intro h s
    apply splitAt_joinWith
    · simpa using splitAt_ne_nil sep s
    · intro q hq
      obtain ⟨p, hp, rfl⟩ := List.mem_map.1 hq
      exact h p (sep_notMem_of_mem_splitAt hp)

/-- The first segments of two texts can be compared, and so can the rest. -/
theorem append_sep_inj (hp : sep ∉ p) (hu : sep ∉ u) :
    p ++ sep :: s = u ++ sep :: t ↔ p = u ∧ s = t := by
  refine ⟨fun h => ?_, fun ⟨hpu, hst⟩ => by rw [hpu, hst]⟩
  have hsplit := congrArg (splitAt sep) h
  rw [splitAt_append hp, splitAt_append hu, List.cons.injEq] at hsplit
  exact ⟨hsplit.1, by rw [← joinWith_splitAt sep s, hsplit.2, joinWith_splitAt]⟩

theorem isTrimmed_append_sep (hsep : isBlank sep = false) (hp : IsTrimmed p) (hs : IsTrimmed s) :
    IsTrimmed (p ++ sep :: s) where
  head := by
    cases p with
    | nil => simpa using hsep
    | cons c p => exact hp.head
  last := by
    rw [List.getLast?_append_of_ne_nil _ (List.cons_ne_nil sep s)]
    cases s with
    | nil => simpa using hsep
    | cons c s =>
        rw [List.getLast?_cons_cons]
        exact hs.last

section Separator

variable (hsep : q sep = false)

include hsep

theorem dropWhile_append_sep (p s : List Char) :
    (p ++ sep :: s).dropWhile q = p.dropWhile q ++ sep :: s := by
  induction p with
  | nil => rw [List.nil_append, List.dropWhile_cons, if_neg (by simp [hsep])]; rfl
  | cons c p ih =>
      rw [List.cons_append, List.dropWhile_cons, List.dropWhile_cons]
      split_ifs
      · exact ih
      · rfl

theorem dropEndWhile_append_sep (p s : List Char) :
    dropEndWhile q (p ++ sep :: s) = p ++ sep :: dropEndWhile q s := by
  rw [dropEndWhile, List.reverse_append, List.reverse_cons, List.append_assoc,
    List.singleton_append, dropWhile_append_sep hsep, List.reverse_append, List.reverse_cons,
    List.reverse_reverse, List.append_assoc, List.singleton_append]
  rfl

theorem collapse_append_sep_eq_self_iff (hmark : sep ≠ mark) (hp : sep ∉ p) :
    collapse q mark (p ++ sep :: s) = p ++ sep :: s ↔
      collapse q mark p = p ∧ collapse q mark s = s := by
  have hmem : sep ∉ collapse q mark p := fun hmem =>
    (mem_collapse hmem).elim hmark fun h => hp h.1
  rw [collapse_append_cons hsep, append_sep_inj hmem hp]

end Separator

end Segments

/-! ## Texts with single blanks

All white space of a spaced text is single blanks between other characters. Collapsing and trimming
make such a text of any other, and keep one that is spaced already. -/

section Spaced

/-- All white space is single blanks, each of them between two other characters. -/
def IsSpaced (s : List Char) : Prop :=
  ∀ before c after, s = before ++ c :: after → isBlank c = true →
    c = ' ' ∧ (∃ b ∈ before.getLast?, isBlank b = false) ∧ ∃ d ∈ after.head?, isBlank d = false

theorem isSpaced_of_isTrimmed (htrimmed : IsTrimmed s) (h : collapse isBlank ' ' s = s) :
    IsSpaced s := by
  intro before c after hs hc
  have hruns := collapse_eq_self_iff.1 h
  obtain ⟨hmark, hbehind⟩ := hruns before c after hs hc
  refine ⟨hmark, ?_, ?_⟩
  · cases before using List.reverseRecOn with
    | nil =>
        have hfirst := htrimmed.head c (by simp [hs])
        rw [hc] at hfirst
        cases hfirst
    | append_singleton before b =>
        refine ⟨b, by simp, ?_⟩
        by_contra hb
        rw [Bool.not_eq_false] at hb
        have hnext := (hruns before b (c :: after) (by simp [hs]) hb).2 c rfl
        rw [hc] at hnext
        cases hnext
  · cases after with
    | nil =>
        have hlast := htrimmed.last c (by simp [hs])
        rw [hc] at hlast
        cases hlast
    | cons d after => exact ⟨d, rfl, hbehind d rfl⟩

namespace IsSpaced

theorem collapse_eq_self (h : IsSpaced s) : collapse isBlank ' ' s = s := by
  apply collapse_eq_self_iff.2
  intro before c after hs hc
  obtain ⟨hmark, -, d, hd, hnone⟩ := h before c after hs hc
  refine ⟨hmark, fun e he => ?_⟩
  rwa [Option.mem_unique he hd]

theorem isTrimmed (h : IsSpaced s) : IsTrimmed s := by
  constructor
  · intro c hc
    by_contra hblank
    rw [Bool.not_eq_false] at hblank
    obtain ⟨after, hs⟩ := List.head?_eq_some_iff.1 hc
    obtain ⟨-, ⟨b, hb, -⟩, -⟩ := h [] c after hs hblank
    cases hb
  · intro c hc
    by_contra hblank
    rw [Bool.not_eq_false] at hblank
    obtain ⟨before, hs⟩ := List.getLast?_eq_some_iff.1 hc
    obtain ⟨-, -, d, hd, -⟩ := h before c [] hs hblank
    cases hd

end IsSpaced

theorem isSpaced_trim_collapse (s : List Char) : IsSpaced (trim (collapse isBlank ' ' s)) :=
  isSpaced_of_isTrimmed (isTrimmed_trim _) (collapse_trim_collapse s)

theorem isSpaced_iff : IsSpaced s ↔ trim (collapse isBlank ' ' s) = s := by
  constructor
  · intro h
    rw [h.collapse_eq_self, trim_of_isTrimmed h.isTrimmed]
  · intro h
    rw [← h]
    exact isSpaced_trim_collapse s

end Spaced

end FolderTag.Text
