import FolderTag.Proofs.Pattern.GlobSource
import FolderTag.Proofs.Regex.Language
import FolderTag.Proofs.Regex.Reading
import FolderTag.Pattern.Basic

/-! # Reading the source of a glob

The reader takes the source of a glob apart piece by piece. It never refuses one, and it finds no
group, no name and no flag in it. -/

namespace FolderTag.Pattern.Glob

open FolderTag.Regex

/-! ## Tokens -/

theorem scan_append_of_plain {s : List Char} (hs : '\\' ∉ s) (rest : List Char) :
    Token.scan (s ++ rest) = s.map Token.plain ++ Token.scan rest := by
  induction s with
  | nil => rfl
  | cons c s ih =>
      simp only [List.mem_cons, not_or] at hs
      rw [List.cons_append, Token.scan, ih hs.2]
      · rfl
      · rintro _ _ rfl
        exact fun _ => hs.1 rfl
      · rintro rfl
        exact fun _ => hs.1 rfl

/-- The tokens that a piece is written with. -/
def Piece.tokens : Piece → List Token
  | .literal c => if isSpecial c then [.escaped c] else [.plain c]
  | p => p.rendered.map .plain

theorem scan_rendered_append (p : Piece) (rest : List Char) :
    Token.scan (p.rendered ++ rest) = p.tokens ++ Token.scan rest := by
  cases p with
  | literal c =>
      by_cases hc : isSpecial c = true
      · simp [Piece.rendered, Piece.draft, Piece.tokens, hc, Token.scan]
      · have hplain : '\\' ∉ [c] := by
          intro hmem
          rw [← List.mem_singleton.1 hmem] at hc
          exact hc (by decide)
        simpa [Piece.rendered, Piece.draft, Piece.tokens, hc] using scan_append_of_plain hplain rest
  | between => exact scan_append_of_plain (by decide) rest
  | leading => exact scan_append_of_plain (by decide) rest
  | anything => exact scan_append_of_plain (by decide) rest
  | within => exact scan_append_of_plain (by decide) rest
  | single => exact scan_append_of_plain (by decide) rest

theorem scan_flatMap_rendered (ps : List Piece) (rest : List Char) :
    Token.scan (ps.flatMap Piece.rendered ++ rest) =
      ps.flatMap Piece.tokens ++ Token.scan rest := by
  induction ps with
  | nil => rfl
  | cons p ps ih =>
      rw [List.flatMap_cons, List.flatMap_cons, List.append_assoc, scan_rendered_append, ih,
        List.append_assoc]

/-! ## Items -/

/-- Any character but a slash. -/
def notSlash : Node := .code true '/'.toNat

/-- The items that a piece is read as. -/
def Piece.nodes : Piece → List Node
  | .literal c => [.code false c.toNat]
  | .between => [
      .rep .greedy 0 none (.group none .none .none
        (.seq (.code false '/'.toNat) (.rep .greedy 1 none notSlash))),
      .code false '/'.toNat]
  | .leading => [
      .rep .greedy 0 none (.group none .none .none
        (.seq (.rep .greedy 1 none notSlash) (.code false '/'.toNat)))]
  | .anything => [.rep .greedy 0 none .any]
  | .within => [.rep .greedy 0 none notSlash]
  | .single => [.any]

/-- The number of steps that reading a piece takes. -/
def Piece.steps : Piece → Nat
  | .literal _ => 1
  | .between => 3
  | .leading => 2
  | .anything => 2
  | .within => 2
  | .single => 1

/-- The number of steps that reading pieces takes. -/
def totalSteps : List Piece → Nat
  | [] => 0
  | p :: ps => p.steps + totalSteps ps

/-- A piece that cutting may leave: no star and no question mark stands for itself. -/
def Piece.WellCut (p : Piece) : Prop := ∀ c, p = .literal c → c ≠ '*' ∧ c ≠ '?'

variable {r : Reader} {rest : List Token} {first : Bool} {done : List Node} {fuel : Nat}

theorem run_itemEscape_special {c : Char} (hc : isSpecial c = true) (r : Reader) :
    (itemEscape c).run r = .ok (.code false c.toNat, r) := by
  have hmem : c ∈ ".+^$\x7b\x7d()|[]\\".toList := by simpa [isSpecial] using hc
  simp only [String.reduceToList, List.mem_cons, List.not_mem_nil, or_false] at hmem
  rcases hmem with rfl | rfl | rfl | rfl | rfl | rfl | rfl | rfl | rfl | rfl | rfl | rfl <;> rfl

theorem soloItem?_literal {c : Char} (hc : isSpecial c = false) (hne : c ≠ '*' ∧ c ≠ '?') :
    soloItem? c = some (.code false c.toNat) := by
  have hmem : c ∉ ".+^$\x7b\x7d()|[]\\".toList := by simpa [isSpecial] using hc
  simp only [String.reduceToList, List.mem_cons, List.not_mem_nil, or_false, not_or] at hmem
  simp [soloItem?, hmem, hne]

theorem run_items_slash (rest : List Token) (h : r.rest = .plain '/' :: rest)
    (hrest : rest.head? ≠ some .dangling) :
    (items .standard (fuel + 1) first false done).run r =
      (items .standard fuel first false (.code false '/'.toNat :: done)).run
        (r.behind [.plain '/'] rest) :=
  run_items_plain (by decide) h hrest

/-- Characters without a slash, any number of them or at least one. -/
theorem run_items_notSlash {mark : Char} {low : Nat} (rest : List Token)
    (hmark : mark = '*' ∧ low = 0 ∨ mark = '+' ∧ low = 1)
    (h : r.rest = "[^/]".toList.map .plain ++ .plain mark :: rest) (hrest : Follows rest) :
    (items .standard (fuel + 2) first false done).run r =
      (items .standard fuel first false (.rep .greedy low none notSlash :: done)).run
        (r.behind ("[^/]".toList.map .plain ++ [.plain mark]) rest) := by
  rw [run_items_allBut h (by simp), run_items_repeat hmark rfl rfl hrest, Reader.behind_behind]
  rfl

/-- A group that is repeated any number of times. -/
theorem run_items_starGroup {inner : List Token} {body : Node} {r' : Reader} (rest : List Token)
    (h : r.rest = "(?:".toList.map .plain ++ inner) (hinner : inner.head? ≠ some .dangling)
    (hbody : (items .standard fuel false false []).run (r.behind ("(?:".toList.map .plain) inner) =
      .ok (body, r'))
    (hclose : r'.rest = ")*".toList.map .plain ++ rest) (hrest : Follows rest) :
    (items .standard (fuel + 2) first false done).run r =
      (items .standard fuel first false
        (.rep .greedy 0 none (.group none .none .none body) :: done)).run
        (r'.behind (")*".toList.map .plain) rest) := by
  have hbar : r'.rest.head? ≠ some (.plain '|') := by
    rw [hclose]
    simp
  rw [run_items_group h hinner (run_choices hbody hbar) hclose (by simp),
    run_items_repeat (.inl ⟨rfl, rfl⟩) rfl rfl hrest, Reader.behind_behind]
  rfl

/-- A piece is read as its items. -/
theorem run_items_piece {p : Piece} (hp : p.WellCut) (hfuel : 4 ≤ fuel)
    (h : r.rest = p.tokens ++ rest) (hrest : Follows rest) :
    (items .standard (fuel + p.steps) first false done).run r =
      (items .standard fuel first false (p.nodes.reverse ++ done)).run
        (r.behind p.tokens rest) := by
  obtain ⟨k, rfl⟩ : ∃ k, fuel = k + 4 := ⟨fuel - 4, by omega⟩
  have hdangling := hrest.not_dangling
  cases p with
  | literal c =>
      by_cases hc : isSpecial c = true
      · simp only [Piece.tokens, hc, ite_true] at h ⊢
        exact run_items_escaped (run_itemEscape_special hc) h hdangling
      · rw [Bool.not_eq_true] at hc
        simp only [Piece.tokens, hc, Bool.false_eq_true, ite_false] at h ⊢
        exact run_items_plain (soloItem?_literal hc (hp c rfl)) h hdangling
  | single => exact run_items_plain (by decide) h hdangling
  | within => exact run_items_notSlash rest (.inl ⟨rfl, rfl⟩) h hrest
  | anything =>
      change (items .standard (k + 4 + 1 + 1) first false done).run r = _
      rw [run_items_plain (n := .any) (by decide) h (by simp),
        run_items_repeat (.inl ⟨rfl, rfl⟩) rfl rfl hrest, Reader.behind_behind]
      rfl
  | leading =>
      have hbody : (items .standard (k + 4) false false []).run (r.behind ("(?:".toList.map .plain)
          ("[^/]+/)*".toList.map .plain ++ rest)) =
          .ok (.seq (.rep .greedy 1 none notSlash) (.code false '/'.toNat),
            r.behind ("(?:[^/]+/".toList.map .plain) (")*".toList.map .plain ++ rest)) := by
        rw [run_items_notSlash ("/)*".toList.map .plain ++ rest) (.inr ⟨rfl, rfl⟩) rfl
            (Follows.plain (by decide)),
          run_items_slash (")*".toList.map .plain ++ rest) rfl (by simp),
          run_items_end (.inr rfl), Reader.behind_behind, Reader.behind_behind]
        rfl
      change (items .standard (k + 4 + 2) first false done).run r = _
      rw [run_items_starGroup rest h (by simp) hbody rfl hrest, Reader.behind_behind]
      rfl
  | between =>
      have hbody : (items .standard (k + 5) false false []).run (r.behind ("(?:".toList.map .plain)
          ("/[^/]+)*/".toList.map .plain ++ rest)) =
          .ok (.seq (.code false '/'.toNat) (.rep .greedy 1 none notSlash),
            r.behind ("(?:/[^/]+".toList.map .plain) (")*/".toList.map .plain ++ rest)) := by
        rw [run_items_slash ("[^/]+)*/".toList.map .plain ++ rest) rfl (by simp),
          run_items_notSlash (")*/".toList.map .plain ++ rest) (.inr ⟨rfl, rfl⟩) rfl
            (Follows.plain (by decide)),
          run_items_end (.inr rfl), Reader.behind_behind, Reader.behind_behind]
        rfl
      change (items .standard (k + 5 + 2) first false done).run r = _
      rw [run_items_starGroup (.plain '/' :: rest) h (by simp) hbody rfl
          (Follows.plain (by decide)),
        run_items_slash rest rfl hdangling, Reader.behind_behind, Reader.behind_behind]
      rfl

/-! ## The whole pattern -/

theorem wellCut_cut (glob : List Char) : ∀ p ∈ cut glob, p.WellCut := by
  fun_induction cut glob with
  | case1 cs ih => simpa [Piece.WellCut] using ih
  | case2 cs ih => simpa [Piece.WellCut] using ih
  | case3 cs _ ih => simpa [Piece.WellCut] using ih
  | case4 cs ih => simpa [Piece.WellCut] using ih
  | case5 c cs hbetween hanything hwithin hsingle ih =>
      intro p hp
      rcases List.mem_cons.1 hp with rfl | hp
      · rintro _ ⟨⟩
        exact ⟨hwithin, hsingle⟩
      · exact ih p hp
  | case6 => simp

theorem wellCut_pieces (glob : List Char) : ∀ p ∈ pieces glob, p.WellCut := by
  rw [pieces]
  split
  · simpa [Piece.WellCut] using wellCut_cut (glob.drop 3)
  · exact wellCut_cut glob

theorem follows_tokens_append {p : Piece} (hp : p.WellCut) (rest : List Token) :
    Follows (p.tokens ++ rest) := by
  cases p with
  | literal c =>
      by_cases hc : isSpecial c = true
      · simp [Piece.tokens, hc, Follows]
      · have hplus : c ≠ '+' := by
          rintro rfl
          exact hc (by decide)
        simp [Piece.tokens, hc, Follows, hplus, (hp c rfl).2]
  | between => exact Follows.plain (by decide)
  | leading => exact Follows.plain (by decide)
  | anything => exact Follows.plain (by decide)
  | within => exact Follows.plain (by decide)
  | single => exact Follows.plain (by decide)

theorem follows_flatMap_tokens {ps : List Piece} (hps : ∀ p ∈ ps, p.WellCut) {rest : List Token}
    (hrest : Follows rest) : Follows (ps.flatMap Piece.tokens ++ rest) := by
  cases ps with
  | nil => exact hrest
  | cons p ps =>
      rw [List.flatMap_cons, List.append_assoc]
      exact follows_tokens_append (hps p List.mem_cons_self) _

/-- Pieces are read as their items, one after another. -/
theorem run_items_pieces {ps : List Piece} (hps : ∀ p ∈ ps, p.WellCut) (hfuel : 4 ≤ fuel)
    (h : r.rest = ps.flatMap Piece.tokens ++ rest) (hrest : Follows rest) :
    (items .standard (fuel + totalSteps ps) first false done).run r =
      (items .standard fuel first false ((ps.flatMap Piece.nodes).reverse ++ done)).run
        (r.behind (ps.flatMap Piece.tokens) rest) := by
  induction ps generalizing r done with
  | nil =>
      have hr : r.behind [] rest = r := by
        rw [Reader.behind, ← show r.rest = rest from h]
        rfl
      simp [hr, totalSteps]
  | cons p ps ih =>
      have htail : ∀ p ∈ ps, p.WellCut := fun p hp => hps p (List.mem_cons_of_mem _ hp)
      rw [List.flatMap_cons, List.append_assoc] at h
      rw [totalSteps, Nat.add_comm p.steps, ← Nat.add_assoc,
        run_items_piece (hps p List.mem_cons_self) (by omega) h
          (follows_flatMap_tokens htail hrest),
        ih htail rfl, Reader.behind_behind, List.flatMap_cons, List.flatMap_cons,
        List.reverse_append, List.append_assoc]

theorem steps_le_length_tokens (p : Piece) : p.steps ≤ p.tokens.length := by
  cases p with
  | literal c =>
      rw [Piece.tokens]
      split <;> simp [Piece.steps]
  | between => decide
  | leading => decide
  | anything => decide
  | within => decide
  | single => decide

theorem totalSteps_le (ps : List Piece) :
    totalSteps ps ≤ (ps.flatMap Piece.tokens).length := by
  induction ps with
  | nil => simp [totalSteps]
  | cons p ps ih =>
      have := steps_le_length_tokens p
      rw [totalSteps, List.flatMap_cons, List.length_append]
      omega

/-! ## Compiling -/

/-- The tokens of the whole source: those of the pieces between the two ends of the line. -/
def tokensOf (ps : List Piece) : List Token :=
  .plain '^' :: (ps.flatMap Piece.tokens ++ [.plain '$'])

/-- The items of the whole source: those of the pieces between the two ends of the line. -/
def itemsOf (ps : List Piece) : List Node :=
  .anchor .lineStart :: (ps.flatMap Piece.nodes ++ [.anchor .lineEnd])

/-- The expression that the source of a glob in which no word is misread is compiled to. -/
def expressionOf (glob : String) (switches : Flags) : Expression where
  source := source glob
  node := .sequence (itemsOf (pieces glob.toList))
  flags := { switches with unicode := true }
  widths := []
  names := []

variable {ps : List Piece}

theorem run_items_tokensOf (hps : ∀ p ∈ ps, p.WellCut) (first : Bool) (h : r.rest = tokensOf ps) :
    (items .standard (3 * r.rest.length + 2) first false []).run r =
      .ok (.sequence (itemsOf ps), r.behind (tokensOf ps) []) := by
  -- The two ends take steps of their own, and a piece is read with four steps to spare.
  obtain ⟨fuel, hfuel⟩ : ∃ fuel, 3 * r.rest.length + 2 = fuel + 6 + totalSteps ps + 1 := by
    have hsteps := totalSteps_le ps
    have hlength : r.rest.length = (ps.flatMap Piece.tokens).length + 2 := by
      rw [h, tokensOf, List.length_cons, List.length_append, List.length_singleton]
    exact ⟨3 * r.rest.length - 5 - totalSteps ps, by omega⟩
  rw [hfuel, run_items_plain (n := .anchor .lineStart) (by decide) h
      (follows_flatMap_tokens hps (Follows.plain (by decide))).not_dangling,
    run_items_pieces hps (by omega) rfl (Follows.plain (by decide)),
    run_items_plain (n := .anchor .lineEnd) (by decide) rfl (by simp),
    run_items_end (.inl rfl), Reader.behind_behind, Reader.behind_behind]
  simp [itemsOf, tokensOf]

variable {switches : Flags}

theorem parse_of_scan (hps : ∀ p ∈ ps, p.WellCut) {text : List Char}
    (hscan : Token.scan text = tokensOf ps)
    (hverbose : switches.verbose = false) (hascii : switches.ascii = false) :
    parse .standard text switches =
      .ok ⟨.sequence (itemsOf ps), { switches with unicode := true }, [], []⟩ := by
  have hstart : (Reader.start text switches).rest = tokensOf ps := hscan
  have hhead : (Reader.start text switches).rest.head? ≠ some .dangling := by
    simp [hstart, tokensOf]
  have hitems := run_items_tokensOf hps true hstart
  have hchoices := run_choices hitems (by simp)
  have hquiet : (Reader.start text switches).flags.verbose = false := hverbose
  rw [parse, readAll, if_neg hhead, hquiet, hchoices, ok_bind]
  simp [conclude, settleAlphabet, hascii, Reader.fault?, Reader.start, Reader.behind]

theorem check_nodes {widths : List (Option Width)} {flags : Flags} (hflags : flags.template = false)
    (p : Piece) : ∀ n ∈ p.nodes, n.check widths flags = .ok () := by
  cases p <;> simp [Piece.nodes, notSlash, Node.check, hflags, Flags.within_none]

theorem check_itemsOf {widths : List (Option Width)} {flags : Flags}
    (hflags : flags.template = false) (ps : List Piece) :
    ∀ n ∈ itemsOf ps, n.check widths flags = .ok () := by
  intro n hn
  simp only [itemsOf, List.mem_cons, List.mem_append, List.mem_flatMap, List.not_mem_nil,
    or_false] at hn
  rcases hn with rfl | ⟨p, -, hp⟩ | rfl
  · rfl
  · exact check_nodes hflags p n hp
  · rfl

/-- What pieces are rendered as is never refused. -/
theorem compile_rendered (hps : ∀ p ∈ ps, p.WellCut) {text : String}
    (htext : text.toList = '^' :: (ps.flatMap Piece.rendered ++ ['$']))
    (htemplate : switches.template = false) (hverbose : switches.verbose = false)
    (hascii : switches.ascii = false) :
    Regex.compile text switches = .ok {
      source := text
      node := .sequence (itemsOf ps)
      flags := { switches with unicode := true }
      widths := []
      names := [] } := by
  have hscan : Token.scan text.toList = tokensOf ps := by
    rw [htext, ← List.singleton_append, scan_append_of_plain (by decide), scan_flatMap_rendered]
    rfl
  rw [Regex.compile, compileWith, parse_of_scan hps hscan hverbose hascii, ok_bind,
    Node.check_sequence_iff.2]
  · rfl
  · refine check_itemsOf ?_ ps
    exact htemplate

/-- The source of a glob that spells no reserved word is compiled to the items of its pieces. -/
theorem compile_source {glob : String} (hnul : '\x00' ∉ glob.toList)
    (hbetween : ¬ "PATHSEG".toList <:+: glob.toList)
    (hanything : ¬ "DOUBLESTAR".toList <:+: glob.toList) (htemplate : switches.template = false)
    (hverbose : switches.verbose = false) (hascii : switches.ascii = false) :
    Regex.compile (source glob) switches = .ok (expressionOf glob switches) :=
  compile_rendered (wellCut_pieces glob.toList) (toList_source hnul hbetween hanything) htemplate
    hverbose hascii

end FolderTag.Pattern.Glob
