import FolderTag.Pattern.Glob
import FolderTag.Proofs.Text.Replace

/-! # The source of a glob

A glob is drafted with reserved words, which are replaced one after another. As long as no word can
be read between two others, the words are invisible: every piece is written by itself. -/

namespace FolderTag.Pattern.Glob

open FolderTag.Text

/-! ## Spelling and writing -/

/-- How a piece is spelled in a glob. -/
def Piece.spelling : Piece → List Char
  | .literal c => [c]
  | .between => "/**/".toList
  | .leading => "**/".toList
  | .anything => "**".toList
  | .within => ['*']
  | .single => ['?']

theorem flatMap_spelling_cut (glob : List Char) : (cut glob).flatMap Piece.spelling = glob := by
  fun_induction cut glob with
  | case1 cs ih => simp [Piece.spelling, ih]
  | case2 cs ih => simp [Piece.spelling, ih]
  | case3 cs _ ih => simp [Piece.spelling, ih]
  | case4 cs ih => simp [Piece.spelling, ih]
  | case5 c cs _ _ _ _ ih => simp [Piece.spelling, ih]
  | case6 => rfl

/-- The pieces of a glob spell the glob. -/
theorem flatMap_spelling_pieces (glob : List Char) :
    (pieces glob).flatMap Piece.spelling = glob := by
  rw [pieces]
  split
  · rename_i h
    rw [beginsAnywhere, Bool.and_eq_true] at h
    obtain ⟨rest, rfl⟩ := List.isPrefixOf_iff_prefix.1 h.1
    simp [Piece.spelling, flatMap_spelling_cut]
  · exact flatMap_spelling_cut glob

/-- What a piece is written as in the end. -/
def Piece.rendered : Piece → List Char
  | .between => betweenSource
  | .leading => leadingSource
  | .anything => anythingSource
  | p => p.draft

/-- The letters of the word that is reserved for a wildcard. -/
def Piece.reserved? : Piece → Option (List Char)
  | .between => some "PATHSEG".toList
  | .leading => some "STARTPATHSEG".toList
  | .anything => some "DOUBLESTAR".toList
  | _ => none

variable {p q : Piece} {word : List Char}

theorem Piece.draft_of_reserved (h : p.reserved? = some word) :
    p.draft = '\x00' :: (word ++ ['\x00']) := by
  cases p <;> cases h <;> rfl

theorem Piece.draft_ne_nil (h : p.reserved? = some word) : p.draft ≠ [] := by
  rw [draft_of_reserved h]
  exact List.cons_ne_nil _ _

theorem Piece.isUpper_of_reserved (h : p.reserved? = some word) : ∀ c ∈ word, c.isUpper := by
  cases p <;> cases h <;> simp

theorem Piece.nul_notMem_of_reserved (h : p.reserved? = some word) : '\x00' ∉ word :=
  fun hmem => absurd (isUpper_of_reserved h _ hmem) (by decide)

/-- The turn at which the word of a wildcard is replaced; a piece without a word has none. -/
def Piece.turn : Piece → Nat
  | .anything => 1
  | .between => 2
  | .leading => 3
  | _ => 0

theorem Piece.exists_reserved (h : 0 < p.turn) : ∃ word, p.reserved? = some word := by
  cases p <;> first | exact ⟨_, rfl⟩ | cases h

theorem Piece.eq_of_turn (hp : 0 < p.turn) (h : p.turn = q.turn) : p = q := by
  cases p <;> cases q <;> simp_all [turn]

theorem Piece.eq_of_reserved (hp : p.reserved? = some word) (hq : q.reserved? = some word) :
    p = q := by
  cases p <;> cases hp <;> cases q <;> first | rfl | cases hq

/-! ## Settling one word after another -/

/-- A piece behind the `n`-th turn. -/
def Piece.written (n : Nat) (p : Piece) : List Char := if p.turn ≤ n then p.rendered else p.draft

variable {n : Nat}

theorem Piece.written_of_le (h : p.turn ≤ n) : p.written n = p.rendered := if_pos h

/-- A wildcard waits for its turn as a word between two marks. -/
theorem Piece.written_of_lt (h : n < p.turn) (hword : p.reserved? = some word) :
    p.written n = '\x00' :: (word ++ ['\x00']) := by
  rw [written, if_neg (by omega), draft_of_reserved hword]

theorem Piece.nul_notMem_rendered (hp : p ≠ .literal '\x00') : '\x00' ∉ p.rendered := by
  cases p with
  | literal c =>
      have hc : '\x00' ≠ c := fun h => hp (by rw [h])
      by_cases hspecial : isSpecial c = true
      · simp [rendered, draft, hspecial, hc]
      · simp [rendered, draft, hspecial, hc]
  | between => decide
  | leading => decide
  | anything => decide
  | within => decide
  | single => decide

/-- A piece that begins with a letter is that letter, and one that begins with a mark waits for its
turn. -/
theorem Piece.exists_written_eq_cons (n : Nat) (hp : p ≠ .literal '\x00') :
    ∃ c cs, p.written n = c :: cs ∧ (c.isUpper = true → p = .literal c ∧ cs = []) ∧
      (c = '\x00' → n < p.turn) := by
  by_cases hturn : p.turn ≤ n
  · rw [written_of_le hturn]
    have hnul := nul_notMem_rendered hp
    cases p with
    | literal c =>
        by_cases hspecial : isSpecial c = true
        · refine ⟨'\\', [c], by simp [rendered, draft, hspecial], ?_, ?_⟩
          · exact fun h => absurd h (by decide)
          · exact fun h => absurd h (by decide)
        · refine ⟨c, [], by simp [rendered, draft, hspecial], fun _ => ⟨rfl, rfl⟩, ?_⟩
          rintro rfl
          exact absurd rfl hp
    | between => exact ⟨_, _, rfl, fun h => absurd h (by decide), fun h => absurd h (by decide)⟩
    | leading => exact ⟨_, _, rfl, fun h => absurd h (by decide), fun h => absurd h (by decide)⟩
    | anything => exact ⟨_, _, rfl, fun h => absurd h (by decide), fun h => absurd h (by decide)⟩
    | within => exact ⟨_, _, rfl, fun h => absurd h (by decide), fun h => absurd h (by decide)⟩
    | single => exact ⟨_, _, rfl, fun h => absurd h (by decide), fun h => absurd h (by decide)⟩
  · have hwaits : n < p.turn := by omega
    obtain ⟨word, hword⟩ := exists_reserved (by omega : 0 < p.turn)
    refine ⟨'\x00', word ++ ['\x00'], written_of_lt hwaits hword, ?_, fun _ => hwaits⟩
    exact fun h => absurd h (by decide)

/-- Letters in a row in front of a mark are written only where the glob has them in a row in front
of a wildcard that waits for its turn. -/
theorem exists_of_prefix_written {ps : List Piece} (hword : ∀ c ∈ word, c.isUpper)
    (hnul : ∀ p ∈ ps, p ≠ .literal '\x00')
    (h : word ++ ['\x00'] <+: ps.flatMap (Piece.written n)) :
    ∃ p rest, ps = word.map .literal ++ p :: rest ∧ n < p.turn := by
  induction word generalizing ps with
  | nil =>
      cases ps with
      | nil => simp at h
      | cons p ps =>
          obtain ⟨c, cs, hwritten, -, hmark⟩ :=
            Piece.exists_written_eq_cons n (hnul p List.mem_cons_self)
          rw [List.flatMap_cons, hwritten] at h
          have hc : '\x00' = c := (List.cons_prefix_cons.1 h).1
          exact ⟨p, ps, rfl, hmark hc.symm⟩
  | cons x word ih =>
      cases ps with
      | nil => simp at h
      | cons p ps =>
          obtain ⟨c, cs, hwritten, hletter, -⟩ :=
            Piece.exists_written_eq_cons n (hnul p List.mem_cons_self)
          rw [List.flatMap_cons, hwritten, List.cons_append, List.cons_append] at h
          obtain ⟨rfl, htail⟩ := List.cons_prefix_cons.1 h
          obtain ⟨rfl, rfl⟩ := hletter (hword x List.mem_cons_self)
          obtain ⟨p', rest, rfl, hwaits⟩ := ih (fun c hc => hword c (List.mem_cons_of_mem x hc))
            (fun p hp => hnul p (List.mem_cons_of_mem _ hp)) htail
          exact ⟨p', rest, rfl, hwaits⟩

/-- Two words between the same characters, one of which begins the other, are the same. -/
theorem eq_of_enclosed_prefix {mark : Char} {a b rest : List Char} (ha : mark ∉ a) (hb : mark ∉ b)
    (h : a ++ [mark] <+: b ++ mark :: rest) : a = b := by
  induction a generalizing b with
  | nil =>
      cases b with
      | nil => rfl
      | cons y b =>
          have := (List.cons_prefix_cons.1 h).1
          simp [this] at hb
  | cons x a ih =>
      cases b with
      | nil =>
          have := (List.cons_prefix_cons.1 h).1
          simp [this] at ha
      | cons y b =>
          obtain ⟨hxy, htail⟩ := List.cons_prefix_cons.1 h
          simp only [List.mem_cons, not_or] at ha hb
          rw [hxy, ih ha.2 hb.2 htail]

/-- The reserved word of `q` does not begin with another one, up to the mark that ends it. -/
theorem Piece.beginsNowhere_marked {letters : List Char} (hq : q.reserved? = some word)
    (hp : p.reserved? = some letters) (hne : p ≠ q) (rest : List Char) :
    BeginsNowhere q.draft ('\x00' :: letters) ('\x00' :: rest) := by
  have hnul := nul_notMem_of_reserved hp
  rw [draft_of_reserved hq]
  refine (beginsNowhere_of_notMem hnul _ _).cons fun h => ?_
  have htail := (List.cons_prefix_cons.1 h).2
  obtain rfl : word = letters := eq_of_enclosed_prefix (nul_notMem_of_reserved hq) hnul htail
  exact hne (eq_of_reserved hp hq)

/-- The reserved word of `q` begins nowhere in another piece, unless its letters and a mark follow
one that waits for its turn. -/
theorem Piece.beginsNowhere_written {rest : List Char} (hq : q.reserved? = some word) (hne : p ≠ q)
    (hp : p ≠ .literal '\x00') (hrest : n < p.turn → ¬ word ++ ['\x00'] <+: rest) :
    BeginsNowhere q.draft (p.written n) rest := by
  by_cases hturn : p.turn ≤ n
  · rw [written_of_le hturn, draft_of_reserved hq]
    exact beginsNowhere_of_notMem (nul_notMem_rendered hp) _ _
  · have hwaits : n < p.turn := by omega
    obtain ⟨letters, hletters⟩ := exists_reserved (by omega : 0 < p.turn)
    rw [written_of_lt hwaits hletters]
    have hfront := beginsNowhere_marked hq hletters hne rest
    refine BeginsNowhere.append (a := '\x00' :: letters) (b := ['\x00']) hfront ?_
    -- The mark that ends the word of `p` begins that of `q` only where `hrest` forbids it.
    rw [draft_of_reserved hq]
    refine (beginsNowhere_nil _ rest).cons fun h => ?_
    exact hrest hwaits (List.cons_prefix_cons.1 h).2

/-- Whether the letters of the word of `q` stand between two wildcards that wait for their turns
when its own comes, so that the word is read between them. The first of them is not a `q` itself,
whose word would be replaced together with its marks. -/
def Piece.IsMisread (q : Piece) (ps : List Piece) : Prop :=
  ∃ word p p', q.reserved? = some word ∧ q.turn < p.turn ∧ q.turn ≤ p'.turn ∧
    p :: (word.map .literal ++ [p']) <:+: ps

theorem Piece.IsMisread.cons {ps : List Piece} (h : q.IsMisread ps) : q.IsMisread (p :: ps) := by
  obtain ⟨word, p₁, p₂, hq, hp₁, hp₂, hinfix⟩ := h
  exact ⟨word, p₁, p₂, hq, hp₁, hp₂, hinfix.trans (List.suffix_cons p ps).isInfix⟩

/-- Replacing one reserved word writes its wildcard and leaves the other pieces alone. -/
theorem replaceAll_flatMap_written {ps : List Piece} (hq : q.reserved? = some word)
    (hturn : q.turn = n + 1) (hnul : ∀ p ∈ ps, p ≠ .literal '\x00') (hread : ¬ q.IsMisread ps) :
    replaceAll q.draft q.rendered (ps.flatMap (Piece.written n)) =
      ps.flatMap (Piece.written (n + 1)) := by
  induction ps with
  | nil => rw [List.flatMap_nil, replaceAll, List.flatMap_nil]
  | cons p ps ih =>
      obtain ⟨hp, hps⟩ := List.forall_mem_cons.1 hnul
      have ih := ih hps (mt Piece.IsMisread.cons hread)
      rw [List.flatMap_cons, List.flatMap_cons]
      by_cases hpq : p = q
      · have hbefore : q.written n = q.draft := if_neg (by omega)
        have hafter : q.written (n + 1) = q.rendered := Piece.written_of_le (by omega)
        rw [hpq, hbefore, hafter, replaceAll_word_append (Piece.draft_ne_nil hq), ih]
      · have hother : p.turn ≠ n + 1 := by
          intro h
          exact hpq (Piece.eq_of_turn (by omega) (by omega))
        have hsame : p.written (n + 1) = p.written n := by
          rw [Piece.written, Piece.written]
          by_cases hle : p.turn ≤ n
          · rw [if_pos hle, if_pos (by omega)]
          · rw [if_neg hle, if_neg (by omega)]
        have hnotNext : n < p.turn → ¬ word ++ ['\x00'] <+: ps.flatMap (Piece.written n) := by
          intro hwaits h
          obtain ⟨p', rest, rfl, hwaits'⟩ :=
            exists_of_prefix_written (Piece.isUpper_of_reserved hq) hps h
          refine hread ⟨word, p, p', hq, by omega, by omega, [], rest, ?_⟩
          simp
        rw [hsame, replaceAll_append_of_beginsNowhere _
          (Piece.beginsNowhere_written hq hpq hp hnotNext), ih]

/-! ## The whole source -/

/-- Whether a word is read in a glob where none was written. -/
def IsMisread (ps : List Piece) : Prop := ∃ q : Piece, q.IsMisread ps

variable {ps : List Piece}

/-- Only the first two words can be misread: behind them no wildcard waits for a later turn. -/
theorem IsMisread.anything_or_between (h : IsMisread ps) :
    Piece.IsMisread .anything ps ∨ Piece.IsMisread .between ps := by
  obtain ⟨q, hq⟩ := h
  obtain ⟨word, p, p', hword, hp, -, -⟩ := id hq
  cases q with
  | anything => exact .inl hq
  | between => exact .inr hq
  | leading =>
      have hlast : p.turn ≤ 3 := by cases p <;> simp [Piece.turn]
      exact absurd hp (Nat.not_lt.2 hlast)
  | literal c => cases hword
  | within => cases hword
  | single => cases hword

theorem Piece.draft_eq_written : Piece.draft = Piece.written 0 := by
  funext p
  cases p <;> rfl

theorem Piece.rendered_eq_written : Piece.rendered = Piece.written 3 := by
  funext p
  cases p <;> rfl

/-- Where no word is misread, every piece is rendered by itself. -/
theorem settle_flatMap_draft (hnul : ∀ p ∈ ps, p ≠ .literal '\x00') (hread : ¬ IsMisread ps) :
    settle (ps.flatMap Piece.draft) = ps.flatMap Piece.rendered := by
  have hanything := replaceAll_flatMap_written (q := .anything) (n := 0) rfl rfl hnul
    fun h => hread ⟨_, h⟩
  have hbetween := replaceAll_flatMap_written (q := .between) (n := 1) rfl rfl hnul
    fun h => hread ⟨_, h⟩
  have hleading := replaceAll_flatMap_written (q := .leading) (n := 2) rfl rfl hnul
    fun h => hread ⟨_, h⟩
  rw [settle, Piece.draft_eq_written, Piece.rendered_eq_written]
  calc
    replaceAll leadingWord leadingSource (replaceAll betweenWord betweenSource
        (replaceAll anythingWord anythingSource (ps.flatMap (Piece.written 0)))) =
      replaceAll leadingWord leadingSource (replaceAll betweenWord betweenSource
        (ps.flatMap (Piece.written 1))) := congrArg _ (congrArg _ hanything)
    _ = replaceAll leadingWord leadingSource (ps.flatMap (Piece.written 2)) :=
        congrArg _ hbetween
    _ = ps.flatMap (Piece.written 3) := hleading

/-- No piece of a glob without marks is a mark. -/
theorem ne_nul_of_mem_pieces {glob : List Char} (hnul : '\x00' ∉ glob) :
    ∀ p ∈ pieces glob, p ≠ .literal '\x00' := by
  rintro p hp rfl
  apply hnul
  rw [← flatMap_spelling_pieces glob]
  exact List.mem_flatMap.2 ⟨_, hp, by simp [Piece.spelling]⟩

/-- A word that is read between two wildcards is spelled in the glob. -/
theorem Piece.IsMisread.infix_spelling (hq : q.reserved? = some word) (h : q.IsMisread ps) :
    word <:+: ps.flatMap Piece.spelling := by
  obtain ⟨word', p, p', hword', -, -, before, after, rfl⟩ := h
  obtain rfl : word' = word := Option.some.inj (hword'.symm.trans hq)
  have hspelled : (word'.map Piece.literal).flatMap Piece.spelling = word' := by
    simp [List.flatMap_map, Piece.spelling]
  refine ⟨(before ++ [p]).flatMap Piece.spelling, (p' :: after).flatMap Piece.spelling, ?_⟩
  simp [List.flatMap_append, hspelled]

/-- The source of a glob that spells no reserved word. -/
theorem toList_source {glob : String} (hnul : '\x00' ∉ glob.toList)
    (hbetween : ¬ "PATHSEG".toList <:+: glob.toList)
    (hanything : ¬ "DOUBLESTAR".toList <:+: glob.toList) :
    (source glob).toList = '^' :: ((pieces glob.toList).flatMap Piece.rendered ++ ['$']) := by
  have hread : ¬ IsMisread (pieces glob.toList) := by
    intro h
    rcases h.anything_or_between with h | h
    · apply hanything
      rw [← flatMap_spelling_pieces glob.toList]
      exact h.infix_spelling rfl
    · apply hbetween
      rw [← flatMap_spelling_pieces glob.toList]
      exact h.infix_spelling rfl
  rw [source, String.toList_ofList, sourceChars,
    settle_flatMap_draft (ne_nul_of_mem_pieces hnul) hread]

end FolderTag.Pattern.Glob
