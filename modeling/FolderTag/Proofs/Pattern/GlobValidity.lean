import FolderTag.Proofs.Pattern.FlagText
import FolderTag.Proofs.Pattern.GlobReading
import FolderTag.Proofs.Rule.Validation

/-! # Every glob is valid

The letters and marks of a reserved word stand for themselves in a regular expression. So whatever a
glob spells, and whichever words are read in its draft, replacing a word leaves a text that pieces
are rendered as, and such a text is never refused. -/

namespace FolderTag.Pattern.Glob

open FolderTag.Text

/-- Whether pieces that cutting may leave are rendered as a text. -/
def IsRendered (s : List Char) : Prop :=
  ∃ ps : List Piece, (∀ p ∈ ps, p.WellCut) ∧ ps.flatMap Piece.rendered = s

variable {p q : Piece} {ps : List Piece} {word s t : List Char}

theorem isRendered_nil : IsRendered [] := ⟨[], by simp, rfl⟩

theorem Piece.WellCut.isRendered (hp : p.WellCut) : IsRendered p.rendered :=
  ⟨[p], by simpa using hp, by simp⟩

theorem IsRendered.append (hs : IsRendered s) (ht : IsRendered t) : IsRendered (s ++ t) := by
  obtain ⟨ps, hps, rfl⟩ := hs
  obtain ⟨qs, hqs, rfl⟩ := ht
  refine ⟨ps ++ qs, ?_, List.flatMap_append⟩
  intro p hp
  rcases List.mem_append.1 hp with hp | hp
  · exact hps p hp
  · exact hqs p hp

/-! ## Marks and letters -/

/-- The characters of reserved words. -/
def isWordLetter (c : Char) : Bool := c == '\x00' || c.isUpper

theorem isWordLetter_nul : isWordLetter '\x00' = true := by decide

theorem isWordLetter_of_mem_draft (hq : q.reserved? = some word) :
    ∀ c ∈ q.draft, isWordLetter c = true := by
  intro c hc
  rw [Piece.draft_of_reserved hq] at hc
  simp only [List.mem_cons, List.mem_append, List.not_mem_nil, or_false] at hc
  rcases hc with rfl | hc | rfl
  · exact isWordLetter_nul
  · simp [isWordLetter, Piece.isUpper_of_reserved hq c hc]
  · exact isWordLetter_nul

theorem isWordLetter_of_isSpecial {c : Char} (h : isSpecial c = true) : isWordLetter c = false := by
  have hmem : c ∈ ".+^$\x7b\x7d()|[]\\".toList := by simpa [isSpecial] using h
  simp only [String.reduceToList, List.mem_cons, List.not_mem_nil, or_false] at hmem
  rcases hmem with rfl | rfl | rfl | rfl | rfl | rfl | rfl | rfl | rfl | rfl | rfl | rfl <;> rfl

/-- A mark or a letter of a word is rendered as it is. -/
theorem rendered_literal {c : Char} (hc : isWordLetter c = true) :
    (Piece.literal c).rendered = [c] := by
  have hspecial : isSpecial c = false := by
    by_contra h
    rw [Bool.not_eq_false] at h
    simp [isWordLetter_of_isSpecial h] at hc
  simp [Piece.rendered, Piece.draft, hspecial]

theorem wellCut_literal {c : Char} (hc : isWordLetter c = true) : (Piece.literal c).WellCut := by
  rintro _ ⟨⟩
  constructor
  · rintro rfl
    exact absurd hc (by decide)
  · rintro rfl
    exact absurd hc (by decide)

theorem flatMap_rendered_literal (hs : ∀ c ∈ s, isWordLetter c = true) :
    (s.map Piece.literal).flatMap Piece.rendered = s := by
  rw [List.flatMap_map, List.flatMap_congr fun c hc => rendered_literal (hs c hc),
    List.flatMap_singleton']

theorem isRendered_of_letters (hs : ∀ c ∈ s, isWordLetter c = true) : IsRendered s := by
  refine ⟨s.map .literal, ?_, flatMap_rendered_literal hs⟩
  intro p hp
  obtain ⟨c, hc, rfl⟩ := List.mem_map.1 hp
  exact wellCut_literal (hs c hc)

/-- A piece that begins with a mark or a letter is that character, and no piece holds a mark behind
its first character. -/
theorem Piece.exists_rendered_cons (p : Piece) :
    ∃ c cs, p.rendered = c :: cs ∧ '\x00' ∉ cs ∧
      (isWordLetter c = true → p = .literal c ∧ cs = []) := by
  cases p with
  | literal c =>
      by_cases hc : isSpecial c = true
      · refine ⟨'\\', [c], by simp [rendered, draft, hc], ?_, fun h => absurd h (by decide)⟩
        rw [List.mem_singleton]
        rintro rfl
        exact absurd hc (by decide)
      · exact ⟨c, [], by simp [rendered, draft, hc], by simp, fun _ => ⟨rfl, rfl⟩⟩
  | between => exact ⟨_, _, rfl, by decide, fun h => absurd h (by decide)⟩
  | leading => exact ⟨_, _, rfl, by decide, fun h => absurd h (by decide)⟩
  | anything => exact ⟨_, _, rfl, by decide, fun h => absurd h (by decide)⟩
  | within => exact ⟨_, _, rfl, by decide, fun h => absurd h (by decide)⟩
  | single => exact ⟨_, _, rfl, by decide, fun h => absurd h (by decide)⟩

/-- Marks and letters at the beginning of rendered pieces are pieces of their own. -/
theorem exists_of_prefix_rendered (hs : ∀ c ∈ s, isWordLetter c = true)
    (h : s <+: ps.flatMap Piece.rendered) : ∃ rest, ps = s.map .literal ++ rest := by
  induction s generalizing ps with
  | nil => exact ⟨ps, rfl⟩
  | cons c s ih =>
      cases ps with
      | nil => simp at h
      | cons p ps =>
          obtain ⟨c', cs, hrendered, -, hletter⟩ := p.exists_rendered_cons
          rw [List.flatMap_cons, hrendered, List.cons_append] at h
          obtain ⟨rfl, htail⟩ := List.cons_prefix_cons.1 h
          obtain ⟨rfl, rfl⟩ := hletter (hs c List.mem_cons_self)
          obtain ⟨rest, rfl⟩ := ih (fun x hx => hs x (List.mem_cons_of_mem c hx)) htail
          exact ⟨rest, rfl⟩

/-! ## Replacing words -/

/-- Replacing a reserved word in rendered pieces leaves rendered pieces. -/
theorem isRendered_replaceAll (hq : q.reserved? = some word) (hwellCut : q.WellCut)
    (hps : ∀ p ∈ ps, p.WellCut) :
    IsRendered (replaceAll q.draft q.rendered (ps.flatMap Piece.rendered)) := by
  -- A replaced word takes several pieces away at once, so the induction is on their number.
  induction hn : ps.length using Nat.strong_induction_on generalizing ps with
  | h n ih =>
      by_cases hword : q.draft <+: ps.flatMap Piece.rendered
      · have hletters := isWordLetter_of_mem_draft hq
        obtain ⟨rest, rfl⟩ := exists_of_prefix_rendered hletters hword
        have hlength : rest.length < n := by
          have := List.length_pos_iff.2 (Piece.draft_ne_nil hq)
          simp only [List.length_append, List.length_map] at hn
          omega
        rw [List.flatMap_append, flatMap_rendered_literal hletters,
          replaceAll_word_append (Piece.draft_ne_nil hq)]
        refine hwellCut.isRendered.append (ih rest.length hlength ?_ rfl)
        exact fun p hp => hps p (List.mem_append_right _ hp)
      · cases ps with
        | nil =>
            rw [List.flatMap_nil, replaceAll]
            exact isRendered_nil
        | cons p ps =>
            obtain ⟨hp, htail⟩ := List.forall_mem_cons.1 hps
            obtain ⟨c, cs, hrendered, hnul, -⟩ := p.exists_rendered_cons
            have hnowhere : BeginsNowhere q.draft p.rendered (ps.flatMap Piece.rendered) := by
              rw [List.flatMap_cons, hrendered] at hword
              rw [hrendered]
              refine BeginsNowhere.cons hword ?_
              rw [Piece.draft_of_reserved hq]
              exact beginsNowhere_of_notMem hnul _ _
            rw [List.flatMap_cons, replaceAll_append_of_beginsNowhere _ hnowhere]
            exact hp.isRendered.append (ih ps.length (by simp [← hn]) htail rfl)

theorem IsRendered.replaceAll (hq : q.reserved? = some word) (hwellCut : q.WellCut)
    (h : IsRendered s) : IsRendered (replaceAll q.draft q.rendered s) := by
  obtain ⟨ps, hps, rfl⟩ := h
  exact isRendered_replaceAll hq hwellCut hps

theorem isRendered_draft (hp : p.WellCut) : IsRendered p.draft := by
  cases hword : p.reserved? with
  | some word => exact isRendered_of_letters (isWordLetter_of_mem_draft hword)
  | none =>
      have hdraft : p.draft = p.rendered := by cases p <;> first | rfl | cases hword
      rw [hdraft]
      exact hp.isRendered

theorem isRendered_flatMap_draft (hps : ∀ p ∈ ps, p.WellCut) :
    IsRendered (ps.flatMap Piece.draft) := by
  induction ps with
  | nil => exact isRendered_nil
  | cons p ps ih =>
      obtain ⟨hp, htail⟩ := List.forall_mem_cons.1 hps
      rw [List.flatMap_cons]
      exact (isRendered_draft hp).append (ih htail)

/-- Whatever words are read in a draft, the settled text is one that pieces are rendered as. -/
theorem IsRendered.settle (h : IsRendered s) : IsRendered (settle s) := by
  have hanything := h.replaceAll (q := .anything) rfl (by simp [Piece.WellCut])
  have hbetween := hanything.replaceAll (q := .between) rfl (by simp [Piece.WellCut])
  exact hbetween.replaceAll (q := .leading) rfl (by simp [Piece.WellCut])

theorem exists_toList_source (glob : String) :
    ∃ ps : List Piece, (∀ p ∈ ps, p.WellCut) ∧
      (source glob).toList = '^' :: (ps.flatMap Piece.rendered ++ ['$']) := by
  obtain ⟨ps, hps, htext⟩ := (isRendered_flatMap_draft (wellCut_pieces glob.toList)).settle
  refine ⟨ps, hps, ?_⟩
  rw [source, String.toList_ofList, sourceChars, htext]

end FolderTag.Pattern.Glob

namespace FolderTag.Pattern

open FolderTag.Rule

variable {glob flags : String}

/-- With accepted flags, what looks like a glob is compiled as one. -/
theorem exists_compile_of_isGlob (hglob : isGlob glob = true)
    (hflags : (readFlags? flags).isSome = true) :
    ∃ entry, compile glob flags = .ok entry ∧ entry.kind = .glob := by
  obtain ⟨choice, hchoice⟩ := Option.isSome_iff_exists.1 hflags
  have hswitches := switches_of_readFlags? hchoice
  obtain ⟨ps, hps, htext⟩ := Glob.exists_toList_source glob
  obtain ⟨e, he⟩ : ∃ e, Regex.compile (Glob.source glob) choice.switches = .ok e :=
    ⟨_, Glob.compile_rendered hps htext (by rw [hswitches]; rfl) (by rw [hswitches]; rfl)
      (by rw [hswitches]; rfl)⟩
  refine ⟨{ pattern := glob, kind := .glob, expression := e, flags }, ?_, rfl⟩
  rw [compile, if_pos hglob, compileGlob, flagChoice, hchoice, ok_bind, compileSource, he]
  rfl

theorem isGlob_iff : isGlob glob = true ↔ '*' ∈ glob.toList ∨ '?' ∈ glob.toList := by
  simp only [isGlob, List.any_eq_true, Bool.or_eq_true, beq_iff_eq]
  constructor
  · rintro ⟨c, hc, rfl | rfl⟩
    · exact .inl hc
    · exact .inr hc
  · rintro (h | h)
    · exact ⟨_, h, .inl rfl⟩
    · exact ⟨_, h, .inr rfl⟩

/-- Every glob is compiled as a glob under every flag text that is accepted, counts as a valid
pattern, and is reported as invalid on neither side of a rule. -/
theorem glob_is_valid (hglob : '*' ∈ glob.toList ∨ '?' ∈ glob.toList) :
    (∀ flags, (readFlags? flags).isSome = true →
      ∃ entry, compile glob flags = .ok entry ∧ entry.kind = .glob) ∧
    isValidPattern (.text glob) = .ok true ∧
    ∀ (r : Rule) (side : Side), (r.endpoint side).pattern = some glob →
      patternProblems side (r.endpoint side) = .ok [] ∧
      ∀ found, r.problems = .ok found → ∀ refusal, Problem.invalidPattern side refusal ∉ found := by
  have hcompiles : ∀ flags, (readFlags? flags).isSome = true →
      ∃ entry, compile glob flags = .ok entry ∧ entry.kind = .glob :=
    fun flags => exists_compile_of_isGlob (isGlob_iff.2 hglob)
  obtain ⟨entry, hentry, -⟩ := hcompiles "" rfl
  refine ⟨hcompiles, ?_, ?_⟩
  · have hne : glob ≠ "" := by
      rintro rfl
      simp at hglob
    simp [isValidPattern, hne, hentry]
  · intro r side hpattern
    have hside : patternProblems side (r.endpoint side) = .ok [] := by
      refine patternProblems_eq_nil_iff.2 fun pattern hused => ?_
      rw [Endpoint.usedPattern?, hpattern] at hused
      obtain ⟨hsame, -⟩ := Option.filter_eq_some_iff.1 hused
      cases hsame
      exact ⟨entry, hentry⟩
    refine ⟨hside, fun found hfound refusal hmem => ?_⟩
    rw [invalidPattern_mem_problems_iff hfound, hside] at hmem
    cases hmem

/-- A glob of marks that mean something in a regular expression, with a reserved word spelled in
front of a wildcard. -/
def crowdedGlob : String := "[(\x7b^$|.\\\x00PATHSEG\x00**/?+)"

/-- The crowded glob is as valid as any, also under all flags at once and on the tag side of a
rule. -/
theorem glob_is_valid_crowded :
    ('*' ∈ crowdedGlob.toList ∨ '?' ∈ crowdedGlob.toList) ∧
      (readFlags? "gimsuy").isSome = true ∧
      (∃ entry, compile crowdedGlob "gimsuy" = .ok entry ∧ entry.kind = .glob) ∧
      isValidPattern (.text crowdedGlob) = .ok true ∧
      patternProblems .tag { pattern := some crowdedGlob } = .ok [] := by
  have hglob : '*' ∈ crowdedGlob.toList ∨ '?' ∈ crowdedGlob.toList := by decide
  have hflags : (readFlags? "gimsuy").isSome = true := by decide
  obtain ⟨hcompiles, hvalid, hrules⟩ := glob_is_valid hglob
  refine ⟨hglob, hflags, hcompiles _ hflags, hvalid, ?_⟩
  exact (hrules { id := .text "a", name := .text "A", tag := { pattern := some crowdedGlob } }
    .tag rfl).1

end FolderTag.Pattern
