import FolderTag.Proofs.Pattern.FlagText
import FolderTag.Proofs.Pattern.GlobReading
import FolderTag.Proofs.Pattern.Matching

/-! # The texts that a glob matches

A glob is cut into stretches, and every stretch into pieces. Each piece denotes some texts, and the
glob matches exactly the texts that are put together from them. -/

namespace FolderTag.Pattern.Glob

open Computability FolderTag.Regex

/-! ## Stretches -/

/-- The first stretch before a `/**/` and the stretches behind it, cut at the leftmost `/**/`. -/
def stretches : List Char → List Char × List (List Char)
  | '/' :: '*' :: '*' :: '/' :: cs => ([], (stretches cs).1 :: (stretches cs).2)
  | c :: cs => (c :: (stretches cs).1, (stretches cs).2)
  | [] => ([], [])

/-- The pieces of a stretch. -/
def stretchPieces : List Char → List Piece
  | '*' :: '*' :: cs => .anything :: stretchPieces cs
  | '*' :: cs => .within :: stretchPieces cs
  | '?' :: cs => .single :: stretchPieces cs
  | c :: cs => .literal c :: stretchPieces cs
  | [] => []

/-- The pieces of the first stretch, where `**/` at the start is a piece of its own. -/
def firstPieces : List Char → List Piece
  | '*' :: '*' :: '/' :: cs => .leading :: stretchPieces cs
  | cs => stretchPieces cs

/-- The pieces of a glob. -/
def piecesByStretch (glob : List Char) : List Piece :=
  firstPieces (stretches glob).1 ++
    (stretches glob).2.flatMap fun cs => .between :: stretchPieces cs

theorem isPrefix_stretches (glob : List Char) : (stretches glob).1 <+: glob := by
  fun_induction stretches glob with
  | case1 cs ih => exact List.nil_prefix
  | case2 c cs _ ih => exact List.cons_prefix_cons.2 ⟨rfl, ih⟩
  | case3 => exact List.nil_prefix

theorem stretches_cons {c : Char} (hc : c ≠ '/') (cs : List Char) :
    stretches (c :: cs) = (c :: (stretches cs).1, (stretches cs).2) := by
  rw [stretches]
  rintro _ rfl
  exact absurd rfl hc

/-- One scan finds the pieces of all stretches. -/
theorem cut_eq (glob : List Char) :
    cut glob = stretchPieces (stretches glob).1 ++
      (stretches glob).2.flatMap fun cs => .between :: stretchPieces cs := by
  fun_induction cut glob with
  | case1 cs ih => simp [stretches, stretchPieces, ih]
  | case2 cs ih =>
      rw [stretches_cons (by decide), stretches_cons (by decide), stretchPieces, ih]
      rfl
  | case3 cs hstar ih =>
      rw [stretches_cons (by decide), stretchPieces, ih]
      · rfl
      · intro rest hrest
        obtain ⟨tail, htail⟩ := isPrefix_stretches cs
        rw [hrest] at htail
        exact hstar _ htail.symm
  | case4 cs ih =>
      rw [stretches_cons (by decide), stretchPieces, ih]
      rfl
  | case5 c cs hbetween hanything hwithin hsingle ih =>
      rw [stretches, stretchPieces, ih]
      · rfl
      · exact fun _ hc _ => hwithin hc
      · exact hwithin
      · exact hsingle
      · exact hbetween
  | case6 => rfl

/-- Cutting keeps a `**/` together unless its slash begins a `/**/`. -/
theorem stretches_leading {rest : List Char} (h : ¬ "**/".toList <+: rest) :
    stretches ("**/".toList ++ rest) =
      ("**/".toList ++ (stretches rest).1, (stretches rest).2) := by
  have hslash : stretches ('/' :: rest) = ('/' :: (stretches rest).1, (stretches rest).2) := by
    rw [stretches]
    rintro cs _ rfl
    exact h ⟨cs, rfl⟩
  change stretches ('*' :: '*' :: '/' :: rest) = _
  rw [stretches_cons (by decide), stretches_cons (by decide), hslash]
  rfl

theorem not_leading_of_stretches {rest : List Char}
    (h : "**/".toList <+: (stretches ("**/".toList ++ rest)).1) : ¬ "**/".toList <+: rest := by
  rintro ⟨cs, rfl⟩
  have hcut : (stretches ("**/".toList ++ ("**/".toList ++ cs))).1 = "**".toList := by
    simp [stretches]
  rw [hcut] at h
  exact absurd h (by decide)

/-- A glob begins with a `**/` of its own exactly when its first stretch does. -/
theorem beginsAnywhere_iff (glob : List Char) :
    beginsAnywhere glob = true ↔ "**/".toList <+: (stretches glob).1 := by
  rw [beginsAnywhere, Bool.and_eq_true, Bool.not_eq_true', List.isPrefixOf_iff_prefix,
    ← Bool.not_eq_true, List.isPrefixOf_iff_prefix]
  have htwice : ∀ rest, "**/**/".toList <+: "**/".toList ++ rest ↔ "**/".toList <+: rest :=
    fun rest => List.prefix_append_right_inj "**/".toList
  constructor
  · rintro ⟨⟨rest, rfl⟩, hbetween⟩
    rw [stretches_leading (mt (htwice rest).2 hbetween)]
    exact List.prefix_append _ _
  · intro h
    obtain ⟨rest, rfl⟩ := h.trans (isPrefix_stretches glob)
    exact ⟨List.prefix_append _ _, mt (htwice rest).1 (not_leading_of_stretches h)⟩

theorem firstPieces_of_not_leading {cs : List Char} (h : ¬ "**/".toList <+: cs) :
    firstPieces cs = stretchPieces cs := by
  rw [firstPieces]
  rintro rest rfl
  exact h ⟨rest, rfl⟩

/-- A glob has the pieces of its stretches. -/
theorem piecesByStretch_eq (glob : List Char) : piecesByStretch glob = pieces glob := by
  rw [piecesByStretch, pieces]
  by_cases h : "**/".toList <+: (stretches glob).1
  · rw [if_pos ((beginsAnywhere_iff glob).2 h)]
    obtain ⟨rest, rfl⟩ := h.trans (isPrefix_stretches glob)
    have hdrop : ("**/".toList ++ rest).drop 3 = rest := rfl
    rw [stretches_leading (not_leading_of_stretches h), hdrop, cut_eq]
    rfl
  · rw [if_neg (mt (beginsAnywhere_iff glob).1 h), cut_eq, firstPieces_of_not_leading h]

/-! ## Texts of a piece -/

/-- A part of a path between two slashes. -/
def IsSegment (s : List Char) : Prop := s ≠ [] ∧ '/' ∉ s

/-- The texts that a piece denotes; `dotAll` tells whether lines may end in them. -/
def Piece.Denotes (dotAll : Prop) : Piece → List Char → Prop
  | .literal c, t => t = [c]
  | .between, t => ∃ segments : List (List Char), (∀ s ∈ segments, IsSegment s) ∧
      t = segments.flatMap (fun s => '/' :: s) ++ ['/']
  | .leading, t => ∃ segments : List (List Char), (∀ s ∈ segments, IsSegment s) ∧
      t = segments.flatMap fun s => s ++ ['/']
  | .anything, t => dotAll ∨ '\n' ∉ t
  | .within, t => '/' ∉ t
  | .single, t => ∃ c, t = [c] ∧ (dotAll ∨ c ≠ '\n')

/-- A text that is put together from texts that the pieces denote. -/
inductive Spells (dotAll : Prop) : List Piece → List Char → Prop
  | nil : Spells dotAll [] []
  | cons {p : Piece} {ps : List Piece} {s t : List Char} (head : p.Denotes dotAll s)
      (tail : Spells dotAll ps t) : Spells dotAll (p :: ps) (s ++ t)

theorem mem_kstar_oneOf {p : Char → Bool} {s : List Char} :
    s ∈ (oneOf p)∗ ↔ ∀ c ∈ s, p c = true := by
  rw [Language.mem_kstar]
  constructor
  · rintro ⟨texts, rfl, htexts⟩ c hc
    obtain ⟨text, htext, hc⟩ := List.mem_flatten.1 hc
    obtain ⟨x, hx, rfl⟩ := htexts text htext
    rwa [List.mem_singleton.1 hc]
  · intro h
    refine ⟨s.map fun c => [c], ?_, ?_⟩
    · rw [← List.flatMap_def, List.flatMap_singleton']
    · intro y hy
      obtain ⟨c, hc, rfl⟩ := List.mem_map.1 hy
      exact ⟨c, h c hc, rfl⟩

/-- Repeating texts of one form puts such texts together. -/
theorem mem_kstar_of_form {L : Language Char} {P : List Char → Prop} {f : List Char → List Char}
    (hL : ∀ t, t ∈ L ↔ ∃ s, P s ∧ t = f s) {t : List Char} :
    t ∈ L∗ ↔ ∃ ss : List (List Char), (∀ s ∈ ss, P s) ∧ t = ss.flatMap f := by
  rw [Language.mem_kstar]
  constructor
  · rintro ⟨texts, rfl, htexts⟩
    induction texts with
    | nil => exact ⟨[], by simp, rfl⟩
    | cons text texts ih =>
        obtain ⟨s, hs, rfl⟩ := (hL text).1 (htexts text List.mem_cons_self)
        obtain ⟨ss, hss, hflat⟩ := ih fun y hy => htexts y (List.mem_cons_of_mem _ hy)
        refine ⟨s :: ss, ?_, ?_⟩
        · simpa using ⟨hs, hss⟩
        · rw [List.flatten_cons, List.flatMap_cons, hflat]
  · rintro ⟨ss, hss, rfl⟩
    refine ⟨ss.map f, List.flatMap_def, ?_⟩
    intro y hy
    obtain ⟨s, hs, rfl⟩ := List.mem_map.1 hy
    exact (hL _).2 ⟨s, hss s hs, rfl⟩

variable {flags : Flags}

theorem literalHolds_eq (hcase : flags.ignoreCase = false) (c x : Char) :
    literalHolds flags c.toNat x = (x == c) := by
  rw [literalHolds, if_neg (by simp [hcase]), Bool.eq_iff_iff, beq_iff_eq, beq_iff_eq,
    Char.toNat_inj]

theorem mem_language_code (hcase : flags.ignoreCase = false) {c : Char} {t : List Char} :
    t ∈ (Node.code false c.toNat).language flags ↔ t = [c] := by
  simp only [Node.language, literalHolds_eq hcase]
  constructor
  · rintro ⟨x, hx, rfl⟩
    simpa using hx
  · rintro rfl
    exact ⟨c, by simp, rfl⟩

theorem language_notSlash (hcase : flags.ignoreCase = false) :
    notSlash.language flags = oneOf (· != '/') := by
  simp only [notSlash, Node.language, literalHolds_eq hcase]
  congr 1
  funext x
  cases h : x == '/' <;> simp [bne, h]

theorem mem_kstar_notSlash {t : List Char} : t ∈ (oneOf (· != '/'))∗ ↔ '/' ∉ t := by
  rw [mem_kstar_oneOf, ← List.forall_mem_ne']
  simp

theorem mem_language_segment (hcase : flags.ignoreCase = false) {t : List Char} :
    t ∈ (Node.rep .greedy 1 none notSlash).language flags ↔ IsSegment t := by
  rw [Node.language, language_notSlash hcase, pow_one, IsSegment, Language.mem_mul]
  constructor
  · rintro ⟨_, ⟨x, hx, rfl⟩, b, hb, rfl⟩
    have hb := mem_kstar_notSlash.1 hb
    have hne : x ≠ '/' := bne_iff_ne.1 hx
    simp [hb, hne.symm]
  · rintro ⟨hne, hslash⟩
    obtain ⟨x, b, rfl⟩ := List.exists_cons_of_ne_nil hne
    rw [List.mem_cons, not_or] at hslash
    exact ⟨[x], ⟨x, bne_iff_ne.2 (Ne.symm hslash.1), rfl⟩, b, mem_kstar_notSlash.2 hslash.2, rfl⟩

theorem mem_language_slash_segment (hcase : flags.ignoreCase = false) (t : List Char) :
    t ∈ (Node.seq (.code false '/'.toNat) (.rep .greedy 1 none notSlash)).language flags ↔
      ∃ s, IsSegment s ∧ t = '/' :: s := by
  rw [Node.language, Language.mem_mul]
  simp only [mem_language_code hcase, mem_language_segment hcase]
  constructor
  · rintro ⟨_, rfl, s, hs, rfl⟩
    exact ⟨s, hs, rfl⟩
  · rintro ⟨s, hs, rfl⟩
    exact ⟨['/'], rfl, s, hs, rfl⟩

theorem mem_language_segment_slash (hcase : flags.ignoreCase = false) (t : List Char) :
    t ∈ (Node.seq (.rep .greedy 1 none notSlash) (.code false '/'.toNat)).language flags ↔
      ∃ s, IsSegment s ∧ t = s ++ ['/'] := by
  rw [Node.language, Language.mem_mul]
  simp only [mem_language_code hcase, mem_language_segment hcase]
  constructor
  · rintro ⟨s, hs, _, rfl, rfl⟩
    exact ⟨s, hs, rfl⟩
  · rintro ⟨s, hs, rfl⟩
    exact ⟨s, hs, ['/'], rfl, rfl⟩

/-- Rounds of a group that is repeated any number of times. -/
theorem mem_language_rounds {body : Node} {P : List Char → Prop} {f : List Char → List Char}
    (hbody : ∀ t, t ∈ body.language flags ↔ ∃ s, P s ∧ t = f s) {t : List Char} :
    t ∈ (Node.rep .greedy 0 none (.group none .none .none body)).language flags ↔
      ∃ ss : List (List Char), (∀ s ∈ ss, P s) ∧ t = ss.flatMap f := by
  rw [Node.language, pow_zero, one_mul]
  apply mem_kstar_of_form
  rwa [Node.language, Flags.within_none]

/-- The items of a piece read the texts that it denotes. -/
theorem prod_language_nodes_iff (hcase : flags.ignoreCase = false) (p : Piece) (t : List Char) :
    t ∈ (p.nodes.map (·.language flags)).prod ↔ p.Denotes (flags.dotAll = true) t := by
  cases p with
  | literal c =>
      rw [Piece.nodes, List.map_singleton, List.prod_singleton]
      exact mem_language_code hcase
  | between =>
      rw [Piece.nodes, List.map_cons, List.map_singleton, List.prod_cons, List.prod_singleton,
        Language.mem_mul, Piece.Denotes]
      simp only [mem_language_rounds (mem_language_slash_segment hcase), mem_language_code hcase]
      constructor
      · rintro ⟨_, ⟨segments, hsegments, rfl⟩, _, rfl, rfl⟩
        exact ⟨segments, hsegments, rfl⟩
      · rintro ⟨segments, hsegments, rfl⟩
        exact ⟨_, ⟨segments, hsegments, rfl⟩, _, rfl, rfl⟩
  | leading =>
      rw [Piece.nodes, List.map_singleton, List.prod_singleton]
      exact mem_language_rounds (mem_language_segment_slash hcase)
  | anything =>
      rw [Piece.nodes, List.map_singleton, List.prod_singleton, Piece.Denotes, Node.language,
        Node.language, pow_zero, one_mul, mem_kstar_oneOf, ← List.forall_mem_ne']
      cases flags.dotAll <;> simp
  | within =>
      rw [Piece.nodes, List.map_singleton, List.prod_singleton, Piece.Denotes, Node.language,
        language_notSlash hcase, pow_zero, one_mul]
      exact mem_kstar_notSlash
  | single =>
      rw [Piece.nodes, List.map_singleton, List.prod_singleton, Piece.Denotes, Node.language]
      constructor
      · rintro ⟨x, hx, rfl⟩
        exact ⟨x, rfl, by simpa using hx⟩
      · rintro ⟨x, rfl, hx⟩
        exact ⟨x, by simpa using hx, rfl⟩

/-! ## Texts of a glob -/

/-- The items of a glob read the texts that its pieces spell. -/
theorem prod_language_flatMap_iff (hcase : flags.ignoreCase = false) (ps : List Piece)
    (t : List Char) :
    t ∈ ((ps.flatMap Piece.nodes).map (·.language flags)).prod ↔
      Spells (flags.dotAll = true) ps t := by
  induction ps generalizing t with
  | nil =>
      constructor
      · rintro rfl
        exact .nil
      · rintro ⟨⟩
        exact Language.nil_mem_one
  | cons p ps ih =>
      rw [List.flatMap_cons, List.map_append, List.prod_append, Language.mem_mul]
      simp only [prod_language_nodes_iff hcase, ih]
      constructor
      · rintro ⟨s, hs, t, ht, rfl⟩
        exact .cons hs ht
      · rintro (_ | ⟨hs, ht⟩)
        exact ⟨_, hs, _, ht, rfl⟩

theorem isRegular_nodes (p : Piece) : ∀ n ∈ p.nodes, n.isRegular = true := by
  cases p <;> simp [Piece.nodes, notSlash, Node.isRegular]

/-- A compiled glob matches exactly the texts that its pieces spell. -/
theorem isSome_fullMatch_iff {glob : String} {switches : Flags}
    (hcase : switches.ignoreCase = false) (text : List Char) :
    ((expressionOf glob switches).fullMatch text).isSome ↔
      Spells (switches.dotAll = true) (pieces glob.toList) text := by
  have hregular : ∀ n ∈ (pieces glob.toList).flatMap Piece.nodes, n.isRegular = true := by
    intro n hn
    obtain ⟨p, -, hp⟩ := List.mem_flatMap.1 hn
    exact isRegular_nodes p n hp
  rw [Expression.isSome_fullMatch_iff rfl hregular]
  refine prod_language_flatMap_iff ?_ _ _
  exact hcase

end FolderTag.Pattern.Glob

namespace FolderTag.Pattern

open FolderTag.Document FolderTag.Log

/-- A glob that spells no reserved word is compiled as one. -/
theorem compile_glob {glob flags : String} {choice : FlagChoice} (hglob : isGlob glob = true)
    (hnul : '\x00' ∉ glob.toList) (hbetween : ¬ "PATHSEG".toList <:+: glob.toList)
    (hanything : ¬ "DOUBLESTAR".toList <:+: glob.toList)
    (hflags : readFlags? flags = some choice) :
    compile glob flags = .ok
      { pattern := glob, kind := .glob, flags := flags,
        expression := Glob.expressionOf glob choice.switches } := by
  have hswitches := switches_of_readFlags? hflags
  have hsource : Regex.compile (Glob.source glob) choice.switches =
      .ok (Glob.expressionOf glob choice.switches) := by
    apply Glob.compile_source hnul hbetween hanything
    · rw [hswitches]
      rfl
    · rw [hswitches]
      rfl
    · rw [hswitches]
      rfl
  rw [compile, if_pos hglob, compileGlob, flagChoice, hflags, ok_bind, compileSource, hsource]
  rfl

/-- A glob that spells no reserved word matches what its expression matches as a whole. -/
theorem outcome_isMatch_glob {text glob flags : String} {choice : FlagChoice}
    (hglob : isGlob glob = true) (hnul : '\x00' ∉ glob.toList)
    (hbetween : ¬ "PATHSEG".toList <:+: glob.toList)
    (hanything : ¬ "DOUBLESTAR".toList <:+: glob.toList)
    (hflags : readFlags? flags = some choice) :
    (isMatch text glob flags).outcome =
      .ok ((Glob.expressionOf glob choice.switches).fullMatch text.toList).isSome :=
  outcome_isMatch_of_compile (compile_glob hglob hnul hbetween hanything hflags)

/-- A glob that spells no reserved word matches a text exactly when the text is put together from
texts that the pieces of the glob denote. -/
theorem isStoredMatch_glob_iff {text glob flags : String}
    (hglob : '*' ∈ glob.toList ∨ '?' ∈ glob.toList) (hnul : '\x00' ∉ glob.toList)
    (hbetween : ¬ "PATHSEG".toList <:+: glob.toList)
    (hanything : ¬ "DOUBLESTAR".toList <:+: glob.toList)
    (hflags : (readFlags? flags).isSome = true) (hcase : 'i' ∉ flags.toList) :
    ∃ matched,
      (isStoredMatch (.text text) (.text glob) (.text flags)).outcome = .ok matched ∧
        (matched = true ↔
          Glob.Spells ('s' ∈ flags.toList) (Glob.piecesByStretch glob.toList) text.toList) := by
  obtain ⟨choice, hchoice⟩ := Option.isSome_iff_exists.1 hflags
  have hswitches := switches_of_readFlags? hchoice
  have hisGlob : isGlob glob = true := by
    rw [isGlob, List.any_eq_true]
    rcases hglob with h | h
    · exact ⟨_, h, rfl⟩
    · exact ⟨_, h, rfl⟩
  have hignore : choice.switches.ignoreCase = false := by
    simpa [hswitches, switchedOn, Regex.Flags.none] using hcase
  have hdotAll : (choice.switches.dotAll = true) = ('s' ∈ flags.toList) := by
    simp [hswitches, switchedOn, Regex.Flags.none]
  refine ⟨_, (outcome_isStoredMatch ..).trans
    (outcome_isMatch_glob hisGlob hnul hbetween hanything hchoice), ?_⟩
  rw [Glob.piecesByStretch_eq, ← hdotAll]
  exact Glob.isSome_fullMatch_iff hignore text.toList

/-- A note two folders below is judged piece by piece. -/
theorem isStoredMatch_glob_iff_notes :
    ∃ matched,
      (isStoredMatch (.text "src/a/b.md") (.text "src/**/*.md") (.text "")).outcome = .ok matched ∧
        (matched = true ↔
          Glob.Spells ('s' ∈ "".toList) (Glob.piecesByStretch "src/**/*.md".toList)
            "src/a/b.md".toList) :=
  isStoredMatch_glob_iff (by decide) (by decide) (by decide) (by decide) (by decide) (by decide)

end FolderTag.Pattern
