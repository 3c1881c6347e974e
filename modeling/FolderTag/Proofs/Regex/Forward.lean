import FolderTag.Proofs.Regex.Cursor
import FolderTag.Regex.Expression

/-! # Runs go forward

A run hands the rest of its pattern only places that it reaches by reading on, whatever the
expression looks around at or remembers. So it never leaves its text and never goes back in it, and
the matches of a text follow each other: each begins where the one before it ended, or behind that. -/

namespace FolderTag.Regex

/-- A runner whose outcomes are those of the rest at places that it reaches by reading on. -/
def Runner.Advances (r : Runner) : Prop :=
  ∀ c m k o, r c m k = some o → ∃ s d m', c.Reads s d ∧ k d m' = some o

/-! ## Single steps -/

theorem advances_nothing : Runner.Advances (fun c m k => k c m) := by
  intro c m k o h
  exact ⟨[], c, m, .nil c, h⟩

theorem Runner.Advances.seq {a b : Runner} (ha : a.Advances) (hb : b.Advances) :
    Runner.Advances (fun c m k => a c m fun c m => b c m k) := by
  intro c m k o h
  obtain ⟨s, d, m', hd, h⟩ := ha c m _ o h
  obtain ⟨t, e, m'', he, h⟩ := hb d m' k o h
  exact ⟨s ++ t, e, m'', hd.append he, h⟩

theorem Runner.Advances.or {a b : Runner} (ha : a.Advances) (hb : b.Advances) :
    Runner.Advances (fun c m k => (a c m k).or (b c m k)) := by
  intro c m k o h
  rcases Option.or_eq_some_iff.1 h with h | ⟨_, h⟩
  · exact ha c m k o h
  · exact hb c m k o h

theorem advances_runOne (p : Char → Bool) : Runner.Advances (runOne p) := by
  intro c m k o h
  unfold runOne at h
  cases hn : c.next? with
  | none => simp [hn] at h
  | some pair =>
      obtain ⟨x, d⟩ := pair
      simp only [hn] at h
      split at h
      · exact ⟨[x], d, m, Cursor.next?_eq_some_iff.1 hn, h⟩
      · cases h

theorem advances_runText (flags : Flags) (xs : List Char) :
    Runner.Advances (runText flags xs) := by
  induction xs with
  | nil => exact advances_nothing
  | cons x xs ih => exact (advances_runOne _).seq ih

/-! ## Repetition -/

section Repetition

variable {body : Runner}

theorem advances_runTimes (hbody : body.Advances) (n : Nat) :
    Runner.Advances (runTimes body n) := by
  induction n with
  | zero => exact advances_nothing
  | succ n ih => exact hbody.seq ih

theorem advances_runGreedy (hbody : body.Advances) (fuel : Nat) (left last : Option Nat) :
    Runner.Advances (runGreedy body fuel left last) := by
  induction fuel generalizing left last with
  | zero => exact advances_nothing
  | succ fuel ih =>
      intro c m k o h
      rw [runGreedy] at h
      split at h
      · exact advances_nothing c m k o h
      · exact (hbody.seq (ih _ _)).or advances_nothing c m k o h

theorem advances_runReluctant (hbody : body.Advances) (fuel : Nat) (left last : Option Nat) :
    Runner.Advances (runReluctant body fuel left last) := by
  induction fuel generalizing left last with
  | zero => exact advances_nothing
  | succ fuel ih =>
      intro c m k o h
      rw [runReluctant] at h
      rcases Option.or_eq_some_iff.1 h with h | ⟨_, h⟩
      · exact advances_nothing c m k o h
      · split at h
        · cases h
        · exact hbody.seq (ih _ _) c m k o h

/-- A run without a rest ends where it reads on to. -/
theorem Runner.Advances.exists_reads_of_done (hbody : body.Advances) {c d : Cursor} {m m' : Marks}
    (h : body c m .done = some (d, m')) : ∃ s, c.Reads s d := by
  obtain ⟨s, e, m'', he, h⟩ := hbody c m .done _ h
  simp only [Rest.done, Option.some.injEq, Prod.mk.injEq] at h
  exact ⟨s, h.1 ▸ he⟩

theorem exists_reads_runPossessive (hbody : body.Advances) (fuel : Nat) (left : Option Nat)
    (c : Cursor) (m : Marks) : ∃ s, c.Reads s (runPossessive body fuel left c m).1 := by
  induction fuel generalizing left c m with
  | zero => exact ⟨[], .nil c⟩
  | succ fuel ih =>
      rw [runPossessive]
      split
      · exact ⟨[], .nil c⟩
      · split
        · exact ⟨[], .nil c⟩
        · rename_i d m' hd
          obtain ⟨s, hs⟩ := hbody.exists_reads_of_done hd
          split
          · exact ⟨s, hs⟩
          · obtain ⟨t, ht⟩ := ih (left.map (· - 1)) d m'
            exact ⟨s ++ t, hs.append ht⟩

theorem exists_reads_of_runRequired (hbody : body.Advances) (n : Nat) {c d : Cursor} {m m' : Marks}
    (h : runRequired body n c m = some (d, m')) : ∃ s, c.Reads s d := by
  induction n generalizing c m with
  | zero =>
      simp only [runRequired, Option.some.injEq, Prod.mk.injEq] at h
      exact ⟨[], h.1 ▸ .nil c⟩
  | succ n ih =>
      rw [runRequired] at h
      split at h
      · cases h
      · rename_i e m'' he
        obtain ⟨s, hs⟩ := hbody.exists_reads_of_done he
        obtain ⟨t, ht⟩ := ih h
        exact ⟨s ++ t, hs.append ht⟩

theorem advances_runRepeat (hbody : body.Advances) (greed : Greed) (low : Nat)
    (high : Option Nat) : Runner.Advances (runRepeat greed low high body) := by
  cases greed with
  | greedy =>
      apply (advances_runTimes hbody low).seq
      intro c m
      exact advances_runGreedy hbody _ _ _ c m
  | reluctant =>
      apply (advances_runTimes hbody low).seq
      intro c m
      exact advances_runReluctant hbody _ _ _ c m
  | possessive =>
      intro c m k o h
      simp only [runRepeat] at h
      cases hr : runRequired body low c m with
      | none => simp [hr] at h
      | some pair =>
          obtain ⟨d, m'⟩ := pair
          simp only [hr] at h
          obtain ⟨s, hs⟩ := exists_reads_of_runRequired hbody low hr
          obtain ⟨t, ht⟩ :=
            exists_reads_runPossessive hbody (d.after.length + 2) (high.map (· - low)) d m'
          exact ⟨s ++ t, _, _, hs.append ht, h⟩

end Repetition

/-! ## Expressions -/

/-- Every outcome of a run is one of the rest at a place behind what the expression reads. -/
theorem Node.run_advances (widths : List (Option Width)) (n : Node) (flags : Flags) :
    Runner.Advances (n.run widths flags) := by
  induction n generalizing flags with
  | empty => exact advances_nothing
  | seq a b iha ihb => exact (iha flags).seq (ihb flags)
  | alt a b iha ihb => exact (iha flags).or (ihb flags)
  | code negated n => exact advances_runOne _
  | any => exact advances_runOne _
  | set negated items => exact advances_runOne _
  | anchor a =>
      intro c m k o h
      simp only [Node.run] at h
      split at h
      · exact advances_nothing c m k o h
      · cases h
  | group index on off body ih =>
      cases index with
      | none => exact ih _
      | some g =>
          intro c m k o h
          obtain ⟨s, d, m', hd, h⟩ := ih _ c _ _ o h
          exact ⟨s, d, _, hd, h⟩
  | atomic body ih =>
      intro c m k o h
      simp only [Node.run] at h
      split at h
      · rename_i d m' hd
        obtain ⟨s, hs⟩ := (ih flags).exists_reads_of_done hd
        exact ⟨s, d, m', hs, h⟩
      · cases h
  | rep greed low high body ih => exact advances_runRepeat (ih flags) greed low high
  | look behind negated body ih =>
      -- What is looked at may lie before the place, but the rest goes on at the place itself.
      intro c m k o h
      simp only [Node.run] at h
      split at h
      · exact ⟨[], c, _, .nil c, h⟩
      · exact ⟨[], c, m, .nil c, h⟩
      · cases h
  | backref g =>
      intro c m k o h
      simp only [Node.run] at h
      split at h
      · exact advances_runText flags _ c m k o h
      · cases h
  | cond g yes no ihyes ihno =>
      intro c m k o h
      simp only [Node.run] at h
      split at h
      · exact ihyes flags c m k o h
      · exact ihno flags c m k o h

namespace Expression

/-- A match reads on from where it begins to an accepted place. -/
theorem matchAt_spec {e : Expression} {accept : Cursor → Bool} {c : Cursor} {m : Match}
    (h : e.matchAt accept c = some m) :
    m.start = c ∧ c.Reads m.whole m.stop ∧ accept m.stop = true := by
  rw [matchAt, Option.map_eq_some_iff] at h
  obtain ⟨⟨d, marks⟩, hrun, rfl⟩ := h
  obtain ⟨s, d', m', hs, hd⟩ := e.node.run_advances e.widths e.flags c e.noMarks _ _ hrun
  split at hd
  · rename_i haccept
    simp only [Option.some.injEq, Prod.mk.injEq] at hd
    obtain ⟨rfl, rfl⟩ := hd
    refine ⟨rfl, ?_, haccept⟩
    rwa [Match.whole, hs.upTo_eq]
  · cases hd

/-- What matches a whole text is that text. -/
theorem whole_of_fullMatch {e : Expression} {text : List Char} {m : Match}
    (h : e.fullMatch text = some m) : m.whole = text := by
  obtain ⟨-, hreads, haccept⟩ := matchAt_spec h
  have hafter : m.stop.after = [] := List.isEmpty_iff.1 haccept
  have htext : text = m.whole ++ m.stop.after := hreads.after_eq
  rw [htext, hafter, List.append_nil]

end Expression

/-! ## Matches one after another -/

/-- Behind `c`, each match begins where reading on from the end of the one before it leads. -/
inductive Follow : Cursor → List Match → Prop where
  | nil (c) : Follow c []
  | cons {c m ms gap} (hgap : c.Reads gap m.start) (hmatch : m.start.Reads m.whole m.stop)
      (hrest : Follow m.stop ms) : Follow c (m :: ms)

theorem Follow.take {c : Cursor} {ms : List Match} (h : Follow c ms) (n : Nat) :
    Follow c (ms.take n) := by
  induction h generalizing n with
  | nil c =>
      rw [List.take_nil]
      exact .nil c
  | cons hgap hmatch _ ih =>
      cases n with
      | zero => exact .nil _
      | succ n => exact .cons hgap hmatch (ih n)

namespace Expression

variable {e : Expression} {lead : Lead} {advance : Bool} {c : Cursor} {m : Match}

theorem tryAt_reads (h : e.tryAt lead advance c = some m) :
    m.start = c ∧ m.start.Reads m.whole m.stop := by
  rw [tryAt] at h
  split at h
  · obtain ⟨rfl, hreads, -⟩ := matchAt_spec h
    exact ⟨rfl, hreads⟩
  · cases h

theorem searchAfter_reads {rest : List Char} (h : e.searchAfter lead rest c = some m) :
    (∃ gap, c.Reads gap m.start) ∧ m.start.Reads m.whole m.stop := by
  induction rest generalizing c with
  | nil => cases h
  | cons x rest ih =>
      rw [searchAfter] at h
      split at h
      · cases h
      · rename_i y d hnext
        have hstep := Cursor.next?_eq_some_iff.1 hnext
        split at h
        · rename_i found htry
          cases h
          obtain ⟨hstart, hreads⟩ := tryAt_reads htry
          exact ⟨⟨[y], hstart ▸ hstep⟩, hreads⟩
        · obtain ⟨⟨gap, hgap⟩, hreads⟩ := ih h
          exact ⟨⟨[y] ++ gap, hstep.append hgap⟩, hreads⟩

/-- A search reads on to the beginning of the match, and the match to its end. -/
theorem searchFrom_reads (h : e.searchFrom advance c = some m) :
    (∃ gap, c.Reads gap m.start) ∧ m.start.Reads m.whole m.stop := by
  rw [searchFrom] at h
  split at h
  · rename_i found htry
    cases h
    obtain ⟨hstart, hreads⟩ := tryAt_reads htry
    exact ⟨⟨[], hstart ▸ .nil _⟩, hreads⟩
  · exact searchAfter_reads h

theorem follow_matchesFrom (e : Expression) (limit : Nat) (advance : Bool) (c : Cursor) :
    Follow c (e.matchesFrom limit advance c) := by
  induction limit generalizing advance c with
  | zero => exact .nil c
  | succ limit ih =>
      rw [matchesFrom]
      split
      · exact .nil c
      · rename_i m hsearch
        obtain ⟨⟨gap, hgap⟩, hreads⟩ := searchFrom_reads hsearch
        exact .cons hgap hreads (ih _ _)

/-- The matches of a text follow each other from its start. -/
theorem follow_allMatches (e : Expression) (text : List Char) :
    Follow (.start text) (e.allMatches text) :=
  e.follow_matchesFrom _ _ _

end Expression

end FolderTag.Regex
