import FolderTag.Proofs.Pattern.GlobLanguage

/-! # Words that are read where none was written

The mark that ends one reserved word can also begin another. Where the letters of a word stand
between two wildcards, the word may be read between their marks, and then the wildcards themselves
are not found any more: their own marks stay in the source. In every other glob the words are
invisible. -/

namespace FolderTag.Pattern.Glob

open FolderTag.Text

/-! ## Texts with a lost mark -/

/-- Whether, from a place between marks or outside of them, a character that no word holds stands
between two marks or behind a last one. -/
def IsSpoiled : (between : Bool) → List Char → Prop
  | _, [] => False
  | between, c :: s =>
      if c = '\x00' then IsSpoiled (!between) s
      else between = true ∧ c.isUpper = false ∨ IsSpoiled between s

variable {between : Bool} {word new s : List Char} {c : Char}

theorem isSpoiled_nul : IsSpoiled between ('\x00' :: s) ↔ IsSpoiled (!between) s := by
  rw [IsSpoiled, if_pos rfl]

theorem isSpoiled_cons (hc : c ≠ '\x00') :
    IsSpoiled between (c :: s) ↔ between = true ∧ c.isUpper = false ∨ IsSpoiled between s := by
  rw [IsSpoiled, if_neg hc]

theorem IsSpoiled.append (hnew : '\x00' ∉ new) (h : IsSpoiled between s) :
    IsSpoiled between (new ++ s) := by
  induction new with
  | nil => exact h
  | cons c new ih =>
      simp only [List.mem_cons, not_or] at hnew
      rw [List.cons_append, isSpoiled_cons (Ne.symm hnew.1)]
      exact .inr (ih hnew.2)

theorem isSpoiled_letters_append (hword : ∀ c ∈ word, c.isUpper) :
    IsSpoiled between (word ++ s) ↔ IsSpoiled between s := by
  induction word with
  | nil => rfl
  | cons c word ih =>
      have hc := hword c List.mem_cons_self
      have hmark : c ≠ '\x00' := by
        rintro rfl
        exact absurd hc (by decide)
      rw [List.cons_append, isSpoiled_cons hmark,
        ih fun c hc => hword c (List.mem_cons_of_mem _ hc)]
      simp [hc]

theorem isSpoiled_enclosed_append (hword : ∀ c ∈ word, c.isUpper) :
    IsSpoiled between ('\x00' :: (word ++ ['\x00']) ++ s) ↔ IsSpoiled between s := by
  rw [List.cons_append, List.append_assoc, isSpoiled_nul, isSpoiled_letters_append hword,
    List.singleton_append, isSpoiled_nul, Bool.not_not]

theorem nul_mem_of_isSpoiled (h : IsSpoiled false s) : '\x00' ∈ s := by
  induction s with
  | nil => exact h.elim
  | cons c s ih =>
      by_cases hc : c = '\x00'
      · rw [hc]
        exact List.mem_cons_self
      · rw [isSpoiled_cons hc] at h
        exact List.mem_cons_of_mem c (ih (h.resolve_left (by simp)))

/-- What is spoiled stays spoiled: a replaced word takes two marks with it and no character but
letters. -/
theorem isSpoiled_replaceAll (hword : ∀ c ∈ word, c.isUpper) (hnew : '\x00' ∉ new)
    (h : IsSpoiled between s) :
    IsSpoiled between (replaceAll ('\x00' :: (word ++ ['\x00'])) new s) := by
  fun_induction replaceAll ('\x00' :: (word ++ ['\x00'])) new s generalizing between with
  | case1 => exact h
  | case2 c cs hprefix ih =>
      obtain ⟨rest, hrest⟩ := List.isPrefixOf_iff_prefix.1 hprefix.2
      rw [← hrest, List.drop_left] at ih ⊢
      rw [← hrest, isSpoiled_enclosed_append hword] at h
      exact (ih h).append hnew
  | case3 c cs hprefix ih =>
      by_cases hc : c = '\x00'
      · rw [hc, isSpoiled_nul] at h ⊢
        exact ih h
      · rw [isSpoiled_cons hc] at h ⊢
        exact h.imp_right ih

/-! ## Globs in which a word is misread -/

variable {p q : Piece} {ps : List Piece} {n : Nat}

theorem IsSpoiled.written_append (hp : p ≠ .literal '\x00') (h : IsSpoiled between s) :
    IsSpoiled between (p.written n ++ s) := by
  by_cases hturn : p.turn ≤ n
  · rw [Piece.written_of_le hturn]
    exact h.append (Piece.nul_notMem_rendered hp)
  · obtain ⟨letters, hletters⟩ := Piece.exists_reserved (by omega : 0 < p.turn)
    rw [Piece.written_of_lt (by omega) hletters]
    exact (isSpoiled_enclosed_append (Piece.isUpper_of_reserved hletters)).2 h

theorem Piece.exists_rendered_eq_cons (h : q.reserved? = some word) :
    ∃ c cs, q.rendered = c :: cs ∧ c ≠ '\x00' ∧ c.isUpper = false := by
  cases q <;> first | exact ⟨_, _, rfl, by decide, by decide⟩ | cases h

/-- The letters of a word are written as they are. -/
theorem Piece.flatMap_written_reserved (hq : q.reserved? = some word) :
    (word.map Piece.literal).flatMap (Piece.written n) = word := by
  have hletter : ∀ c ∈ word, isSpecial c = false := by
    cases q <;> cases hq <;> simp [isSpecial]
  have hwritten : ∀ c ∈ word, (Piece.literal c).written n = [c] := by
    intro c hc
    rw [Piece.written_of_le (Nat.zero_le n)]
    simp [Piece.rendered, Piece.draft, hletter c hc]
  rw [List.flatMap_map, List.flatMap_congr hwritten, List.flatMap_singleton']

/-- Replacing a word between the marks of two others tears these apart. -/
theorem isSpoiled_of_prefix {letters rest : List Char} (hq : q.reserved? = some word)
    (hp : p.reserved? = some letters) (hne : p ≠ q) :
    IsSpoiled false (replaceAll q.draft q.rendered
      ('\x00' :: (letters ++ ['\x00']) ++ (word ++ '\x00' :: rest))) := by
  have htext : '\x00' :: (letters ++ ['\x00']) ++ (word ++ '\x00' :: rest) =
      ('\x00' :: letters) ++ (q.draft ++ rest) := by
    simp [Piece.draft_of_reserved hq]
  have hdraft : q.draft ++ rest = '\x00' :: (word ++ '\x00' :: rest) := by
    simp [Piece.draft_of_reserved hq]
  have hfront := Piece.beginsNowhere_marked hq hp hne (word ++ '\x00' :: rest)
  rw [← hdraft] at hfront
  obtain ⟨c, cs, hrendered, hmark, hletter⟩ := Piece.exists_rendered_eq_cons hq
  rw [htext, replaceAll_append_of_beginsNowhere _ hfront,
    replaceAll_word_append (Piece.draft_ne_nil hq), hrendered, List.cons_append, isSpoiled_nul,
    isSpoiled_letters_append (Piece.isUpper_of_reserved hp), List.cons_append, isSpoiled_cons hmark]
  exact .inl ⟨rfl, hletter⟩

/-- A misread word stands behind the first piece, with the mark of a wildcard after it, or behind
another one. -/
theorem Piece.IsMisread.first_or_behind (hq : q.reserved? = some word) (hturn : q.turn = n + 1)
    (h : q.IsMisread (p :: ps)) :
    (p ≠ q ∧ n < p.turn ∧ word ++ ['\x00'] <+: ps.flatMap (Piece.written n)) ∨
      q.IsMisread ps := by
  obtain ⟨word', p₁, p₂, hword', hp₁, hp₂, hinfix⟩ := h
  obtain rfl : word' = word := Option.some.inj (hword'.symm.trans hq)
  rcases List.infix_cons_iff.1 hinfix with hprefix | hinfix
  · obtain ⟨rfl, rest, rfl⟩ := List.cons_prefix_cons.1 hprefix
    refine .inl ⟨?_, by omega, ?_⟩
    · rintro rfl
      exact absurd hp₁ (lt_irrefl _)
    · obtain ⟨letters, hletters⟩ := Piece.exists_reserved (by omega : 0 < p₂.turn)
      rw [List.flatMap_append, List.flatMap_append, Piece.flatMap_written_reserved hq,
        List.flatMap_singleton, Piece.written_of_lt (by omega) hletters, List.append_assoc]
      exact (List.prefix_append_right_inj word').2 ⟨_, rfl⟩
  · exact .inr ⟨word', p₁, p₂, hword', hp₁, hp₂, hinfix⟩

theorem isSpoiled_of_isMisread (hq : q.reserved? = some word) (hturn : q.turn = n + 1)
    (hnul : ∀ p ∈ ps, p ≠ .literal '\x00') (h : q.IsMisread ps) :
    IsSpoiled false (replaceAll q.draft q.rendered (ps.flatMap (Piece.written n))) := by
  induction ps with
  | nil =>
      obtain ⟨word, p, p', -, -, -, hinfix⟩ := h
      exact absurd (List.infix_nil.1 hinfix) (List.cons_ne_nil _ _)
  | cons p ps ih =>
      obtain ⟨hp, hps⟩ := List.forall_mem_cons.1 hnul
      rw [List.flatMap_cons]
      by_cases hnext : p ≠ q ∧ n < p.turn ∧ word ++ ['\x00'] <+: ps.flatMap (Piece.written n)
      · obtain ⟨hne, hwaits, rest, hrest⟩ := hnext
        obtain ⟨letters, hletters⟩ := Piece.exists_reserved (by omega : 0 < p.turn)
        rw [Piece.written_of_lt hwaits hletters, ← hrest, List.append_assoc word]
        exact isSpoiled_of_prefix hq hletters hne
      · -- Here no word begins that is not written, so the misread one stands behind.
        have hbehind : q.IsMisread ps := (h.first_or_behind hq hturn).resolve_left hnext
        by_cases hpq : p = q
        · have hwritten : q.written n = q.draft := if_neg (by omega)
          rw [hpq, hwritten, replaceAll_word_append (Piece.draft_ne_nil hq)]
          exact (ih hps hbehind).append (Piece.nul_notMem_rendered (hpq ▸ hp))
        · have hkept := Piece.beginsNowhere_written hq hpq hp
            fun hwaits hprefix => hnext ⟨hpq, hwaits, hprefix⟩
          rw [replaceAll_append_of_beginsNowhere _ hkept]
          exact (ih hps hbehind).written_append hp

/-- A later turn loses no mark that is left over. -/
theorem IsSpoiled.replaceAll (hq : q.reserved? = some word) (h : IsSpoiled between s) :
    IsSpoiled between (replaceAll q.draft q.rendered s) := by
  have hliteral : q ≠ .literal '\x00' := by
    rintro rfl
    cases hq
  rw [Piece.draft_of_reserved hq]
  exact isSpoiled_replaceAll (Piece.isUpper_of_reserved hq) (Piece.nul_notMem_rendered hliteral) h

/-- Where a word is misread, a mark stays in the source. -/
theorem nul_mem_settle (hnul : ∀ p ∈ ps, p ≠ .literal '\x00') (h : IsMisread ps) :
    '\x00' ∈ settle (ps.flatMap Piece.draft) := by
  rw [settle, Piece.draft_eq_written]
  apply nul_mem_of_isSpoiled
  by_cases hanything : Piece.IsMisread .anything ps
  · have hfirst := isSpoiled_of_isMisread rfl rfl hnul hanything
    have hsecond : IsSpoiled false (replaceAll betweenWord betweenSource _) :=
      hfirst.replaceAll (q := .between) rfl
    exact hsecond.replaceAll (q := .leading) rfl
  · have hfirst := replaceAll_flatMap_written (q := .anything) rfl rfl hnul hanything
    have hbetween := h.anything_or_between.resolve_left hanything
    have hsecond : IsSpoiled false (replaceAll betweenWord betweenSource _) :=
      isSpoiled_of_isMisread rfl rfl hnul hbetween
    rw [← hfirst] at hsecond
    exact hsecond.replaceAll (q := .leading) rfl

/-! ## The source of every glob -/

theorem nul_notMem_rendered (hnul : ∀ p ∈ ps, p ≠ .literal '\x00') :
    '\x00' ∉ '^' :: (ps.flatMap Piece.rendered ++ ['$']) := by
  have hpieces : '\x00' ∉ ps.flatMap Piece.rendered := by
    intro h
    obtain ⟨p, hp, hmem⟩ := List.mem_flatMap.1 h
    exact Piece.nul_notMem_rendered (hnul p hp) hmem
  simpa using hpieces

/-- The source of a glob renders one piece after another exactly when no word is misread; when one
is, a mark is left in the source. -/
theorem source_renders_iff (glob : String) (hnul : '\x00' ∉ glob.toList) :
    ((source glob).toList =
        '^' :: ((piecesByStretch glob.toList).flatMap Piece.rendered ++ ['$']) ↔
      ¬ IsMisread (piecesByStretch glob.toList)) ∧
    ('\x00' ∈ (source glob).toList ↔ IsMisread (piecesByStretch glob.toList)) := by
  rw [piecesByStretch_eq, source, String.toList_ofList, sourceChars]
  have hpieces := ne_nul_of_mem_pieces hnul
  have hclean := nul_notMem_rendered hpieces
  by_cases hread : IsMisread (pieces glob.toList)
  · have hmark : '\x00' ∈ '^' :: (settle ((pieces glob.toList).flatMap Piece.draft) ++ ['$']) :=
      List.mem_cons_of_mem _ (List.mem_append_left _ (nul_mem_settle hpieces hread))
    refine ⟨iff_of_false ?_ (not_not_intro hread), iff_of_true hmark hread⟩
    intro h
    rw [h] at hmark
    exact hclean hmark
  · rw [settle_flatMap_draft hpieces hread]
    exact ⟨iff_of_true rfl hread, iff_of_false hclean hread⟩

theorem source_renders_iff_words :
    '\x00' ∉ "**/PATHSEG/**/DOUBLESTAR".toList ∧
      IsMisread (piecesByStretch "**/PATHSEG/**/DOUBLESTAR".toList) ∧
      '\x00' ∉ "/**/PATHSEG/**/DOUBLESTAR".toList ∧
      ¬ IsMisread (piecesByStretch "/**/PATHSEG/**/DOUBLESTAR".toList) ∧
      (source "/**/PATHSEG/**/DOUBLESTAR").toList =
        "^(?:/[^/]+)*/PATHSEG(?:/[^/]+)*/DOUBLESTAR$".toList := by
  have hmisread : '\x00' ∉ "**/PATHSEG/**/DOUBLESTAR".toList := by decide
  have hread : '\x00' ∉ "/**/PATHSEG/**/DOUBLESTAR".toList := by decide
  have hrendered := source_renders_iff "/**/PATHSEG/**/DOUBLESTAR" hread
  have hnot := mt hrendered.2.2 (by decide +kernel)
  refine ⟨hmisread, ?_, hread, hnot, (hrendered.1.2 hnot).trans rfl⟩
  exact (source_renders_iff "**/PATHSEG/**/DOUBLESTAR" hmisread).2.1 (by decide +kernel)

/-- The marks of two wildcards and the letters between them are read as a third. -/
theorem source_misreads_letters :
    '\x00' ∉ "/**/DOUBLESTAR/**/".toList ∧
      (source "/**/DOUBLESTAR/**/").toList = "^\x00PATHSEG.*PATHSEG\x00$".toList ∧
      '^' :: ((piecesByStretch "/**/DOUBLESTAR/**/".toList).flatMap Piece.rendered ++ ['$']) =
        "^(?:/[^/]+)*/DOUBLESTAR(?:/[^/]+)*/$".toList := by
  decide +kernel

end FolderTag.Pattern.Glob
