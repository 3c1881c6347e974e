import FolderTag.Proofs.Outcome
import FolderTag.Proofs.Regex.Cursor
import FolderTag.Regex.Expression
import Mathlib.Computability.Language

/-! # Languages of regular expressions

An expression without groups, references, positions and bounded or hesitant repetition consumes
texts of a language. The backtracking run of such an expression succeeds exactly when the rest does
behind some text of the language. A sequence between the two ends of the line matches exactly the
texts that its items read together. -/

namespace FolderTag.Regex

open Computability

/-- A runner that reads some text of a language and leaves the marks alone. -/
def Runner.Accepts (r : Runner) (L : Language Char) : Prop :=
  ∀ c m k, (r c m k).isSome ↔ ∃ s ∈ L, ∃ d, c.Reads s d ∧ (k d m).isSome

/-! ## Single characters and sequences -/

/-- The texts of one character that satisfies `p`. -/
def oneOf (p : Char → Bool) : Language Char := {s | ∃ x, p x = true ∧ s = [x]}

theorem accepts_nothing : Runner.Accepts (fun c m k => k c m) 1 := by
  intro c m k
  constructor
  · intro h
    exact ⟨[], Language.nil_mem_one, c, .nil c, h⟩
  · rintro ⟨s, rfl, d, hd, h⟩
    rwa [hd.eq_of_nil] at h

theorem accepts_runOne (p : Char → Bool) : Runner.Accepts (runOne p) (oneOf p) := by
  intro c m k
  constructor
  · intro h
    rw [runOne] at h
    cases hn : c.next? with
    | none => simp [hn] at h
    | some pair =>
        obtain ⟨x, d⟩ := pair
        simp only [hn] at h
        split at h
        · rename_i hx
          exact ⟨[x], ⟨x, hx, rfl⟩, d, Cursor.next?_eq_some_iff.1 hn, h⟩
        · cases h
  · rintro ⟨s, ⟨x, hx, rfl⟩, d, hd, h⟩
    rw [runOne, Cursor.next?_eq_some_iff.2 hd]
    simpa only [hx, ite_true] using h

theorem Runner.Accepts.seq {a b : Runner} {L M : Language Char} (ha : a.Accepts L)
    (hb : b.Accepts M) : Runner.Accepts (fun c m k => a c m fun c m => b c m k) (L * M) := by
  intro c m k
  rw [ha]
  constructor
  · rintro ⟨s, hs, d, hd, h⟩
    obtain ⟨t, ht, e, he, h⟩ := (hb d m k).1 h
    exact ⟨s ++ t, Language.append_mem_mul hs ht, e, hd.append he, h⟩
  · rintro ⟨_, ⟨s, hs, t, ht, rfl⟩, e, he, h⟩
    obtain ⟨d, hd, he⟩ := he.split
    exact ⟨s, hs, d, hd, (hb d m k).2 ⟨t, ht, e, he, h⟩⟩

theorem Runner.Accepts.or {a b : Runner} {L M : Language Char} (ha : a.Accepts L)
    (hb : b.Accepts M) : Runner.Accepts (fun c m k => (a c m k).or (b c m k)) (L + M) := by
  intro c m k
  rw [Option.isSome_or, Bool.or_eq_true, ha c m k, hb c m k]
  constructor
  · rintro (⟨s, hs, h⟩ | ⟨s, hs, h⟩)
    · exact ⟨s, .inl hs, h⟩
    · exact ⟨s, .inr hs, h⟩
  · rintro ⟨s, hs | hs, h⟩
    · exact .inl ⟨s, hs, h⟩
    · exact .inr ⟨s, hs, h⟩

/-! ## Repetition -/

section Repetition

variable {body : Runner} {L : Language Char}

theorem Runner.Accepts.times (hbody : body.Accepts L) (n : ℕ) :
    Runner.Accepts (runTimes body n) (L ^ n) := by
  induction n with
  | zero =>
      rw [pow_zero]
      exact accepts_nothing
  | succ n ih =>
      rw [pow_succ']
      exact hbody.seq ih

/-- Greedy rounds read texts of the language one after another. -/
theorem Runner.Accepts.reads_of_greedy (hbody : body.Accepts L) {fuel : ℕ} {last : Option ℕ}
    {c : Cursor} {m : Marks} {k : Rest} (h : (runGreedy body fuel none last c m k).isSome) :
    ∃ s ∈ L∗, ∃ d, c.Reads s d ∧ (k d m).isSome := by
  induction fuel generalizing last c with
  | zero => exact ⟨[], Language.nil_mem_kstar L, c, .nil c, h⟩
  | succ fuel ih =>
      rw [runGreedy] at h
      split at h
      · exact ⟨[], Language.nil_mem_kstar L, c, .nil c, h⟩
      · rw [Option.isSome_or, Bool.or_eq_true] at h
        rcases h with h | h
        · obtain ⟨s, hs, d, hd, h⟩ := (hbody c m _).1 h
          obtain ⟨t, ht, e, he, h⟩ := ih h
          refine ⟨s ++ t, ?_, e, hd.append he, h⟩
          rw [← Language.one_add_self_mul_kstar_eq_kstar]
          exact .inr (Language.append_mem_mul hs ht)
        · exact ⟨[], Language.nil_mem_kstar L, c, .nil c, h⟩

/-- Greedy rounds find every way to the rest. Rounds over nothing can be left out, so no round
begins where the last one did, and each round leaves less text than there is fuel. -/
theorem Runner.Accepts.greedy_of_reads (hbody : body.Accepts L) {texts : List (List Char)}
    (htexts : ∀ s ∈ texts, s ∈ L ∧ s ≠ []) {fuel : ℕ} {last : Option ℕ} {c d : Cursor} {m : Marks}
    {k : Rest} (hfuel : c.after.length < fuel) (hlast : last ≠ some c.index)
    (hd : c.Reads texts.flatten d) (h : (k d m).isSome) :
    (runGreedy body fuel none last c m k).isSome := by
  induction texts generalizing fuel last c with
  | nil =>
      cases fuel with
      | zero => exact absurd hfuel (Nat.not_lt_zero _)
      | succ fuel =>
          rw [List.flatten_nil] at hd
          rw [runGreedy]
          rw [hd.eq_of_nil] at h
          split
          · exact h
          · rw [Option.isSome_or, h, Bool.or_true]
  | cons s texts ih =>
      cases fuel with
      | zero => exact absurd hfuel (Nat.not_lt_zero _)
      | succ fuel =>
          obtain ⟨hs, hne⟩ := htexts s List.mem_cons_self
          obtain ⟨e, he, hd⟩ := hd.split
          have hpos : 0 < s.length := List.length_pos_iff.2 hne
          have hlength := he.length_after
          have hindex := he.index_eq
          have hround : (runGreedy body fuel none (some c.index) e m k).isSome := by
            apply ih (fun t ht => htexts t (List.mem_cons_of_mem s ht)) _ _ hd
            · omega
            · simp only [ne_eq, Option.some.injEq]
              omega
          rw [runGreedy, if_neg (by simp [hlast]), Option.isSome_or, Bool.or_eq_true]
          exact .inl ((hbody c m _).2 ⟨s, hs, e, he, hround⟩)

theorem Runner.Accepts.greedy (hbody : body.Accepts L) :
    Runner.Accepts (fun c m k => runGreedy body (c.after.length + 2) none none c m k) L∗ := by
  intro c m k
  constructor
  · exact hbody.reads_of_greedy
  · rintro ⟨s, hs, d, hd, h⟩
    obtain ⟨texts, rfl, htexts⟩ := Language.mem_kstar_iff_exists_nonempty.1 hs
    exact hbody.greedy_of_reads htexts (by omega) (by simp) hd h

theorem Runner.Accepts.repeat (hbody : body.Accepts L) (low : ℕ) :
    Runner.Accepts (runRepeat .greedy low none body) (L ^ low * L∗) :=
  (hbody.times low).seq hbody.greedy

end Repetition

/-! ## Expressions -/

namespace Node

/-- Whether an expression reads texts of a language and does nothing else. -/
def isRegular : Node → Bool
  | .empty => true
  | .seq a b => a.isRegular && b.isRegular
  | .alt a b => a.isRegular && b.isRegular
  | .code _ _ => true
  | .any => true
  | .set _ _ => true
  | .group none _ _ body => body.isRegular
  | .rep .greedy _ none body => body.isRegular
  | _ => false

/-- The texts that a regular expression reads. -/
def language : Node → Flags → Language Char
  | .empty, _ => 1
  | .seq a b, flags => a.language flags * b.language flags
  | .alt a b, flags => a.language flags + b.language flags
  | .code negated n, flags => oneOf (literalHolds flags n · != negated)
  | .any, flags => oneOf fun x => flags.dotAll || x != '\n'
  | .set negated items, flags => oneOf (setHolds flags negated items)
  | .group _ on off body, flags => body.language (flags.within on off)
  | .rep _ low _ body, flags => body.language flags ^ low * (body.language flags)∗
  | _, _ => 0

/-- The run of a regular expression accepts its language. -/
theorem run_accepts (widths : List (Option Width)) (n : Node) (flags : Flags)
    (h : n.isRegular = true) : Runner.Accepts (n.run widths flags) (n.language flags) := by
  fun_induction isRegular n generalizing flags with
  | case1 => exact accepts_nothing
  | case2 a b iha ihb =>
      rw [Bool.and_eq_true] at h
      exact (iha flags h.1).seq (ihb flags h.2)
  | case3 a b iha ihb =>
      rw [Bool.and_eq_true] at h
      exact (iha flags h.1).or (ihb flags h.2)
  | case4 negated n => exact accepts_runOne _
  | case5 => exact accepts_runOne _
  | case6 negated items => exact accepts_runOne _
  | case7 on off body ih => exact ih _ h
  | case8 low body ih => exact (ih flags h).repeat low
  | case9 => cases h

end Node

/-! ## Sequences of items -/

/-- A group that turns nothing on or off keeps the switches. -/
theorem Flags.within_none (flags : Flags) : flags.within .none .none = flags := by
  simp [Flags.within, Flags.union, Flags.without, Flags.choosesAlphabet, Flags.none]

namespace Node

variable {widths : List (Option Width)} {flags : Flags} {ns : List Node}

theorem seq_eq_ok_iff {x y : Except Error Unit} :
    (x >>= fun _ => y) = .ok () ↔ x = .ok () ∧ y = .ok () := by
  cases x with
  | error e => simp
  | ok _ => simp

/-- A sequence passes the check exactly when all of its items do. -/
theorem check_sequence_iff :
    (sequence ns).check widths flags = .ok () ↔ ∀ n ∈ ns, n.check widths flags = .ok () := by
  fun_induction sequence ns with
  | case1 => simp [check]
  | case2 n => simp
  | case3 n n' ns ih =>
      rw [check, seq_eq_ok_iff, ih]
      simp only [List.forall_mem_cons]

theorem run_sequence_cons (n : Node) (ns : List Node) :
    (sequence (n :: ns)).run widths flags =
      fun c m k => n.run widths flags c m fun c m => (sequence ns).run widths flags c m k := by
  cases ns <;> rfl

theorem run_sequence_append (ns rest : List Node) :
    (sequence (ns ++ rest)).run widths flags =
      fun c m k =>
        (sequence ns).run widths flags c m fun c m => (sequence rest).run widths flags c m k := by
  induction ns with
  | nil => rfl
  | cons n ns ih => rw [List.cons_append, run_sequence_cons, run_sequence_cons, ih]

/-- Regular items read texts of their languages one after another. -/
theorem sequence_accepts (h : ∀ n ∈ ns, n.isRegular = true) :
    Runner.Accepts ((sequence ns).run widths flags) (ns.map (·.language flags)).prod := by
  induction ns with
  | nil => exact accepts_nothing
  | cons n ns ih =>
      rw [run_sequence_cons, List.map_cons, List.prod_cons]
      exact (n.run_accepts widths flags (h n List.mem_cons_self)).seq
        (ih fun x hx => h x (List.mem_cons_of_mem n hx))

end Node

/-- Regular items between the two ends of the line match all of a text exactly when they read it. -/
theorem Expression.isSome_fullMatch_iff {e : Expression} {ns : List Node}
    (hnode : e.node = .sequence (.anchor .lineStart :: (ns ++ [.anchor .lineEnd])))
    (h : ∀ n ∈ ns, n.isRegular = true) (text : List Char) :
    (e.fullMatch text).isSome ↔ text ∈ (ns.map (·.language e.flags)).prod := by
  have hstart : Anchor.lineStart.holds e.flags (.start text) = true := rfl
  rw [fullMatch, matchAt, Option.isSome_map, hnode, Node.run_sequence_cons,
    Node.run_sequence_append]
  simp only [Node.run, hstart, ite_true]
  rw [Node.sequence_accepts h]
  constructor
  · rintro ⟨s, hs, d, hd, hend⟩
    have hafter : d.after = [] := by
      simp only [Node.sequence, Node.run] at hend
      split at hend
      · split at hend
        · rename_i hempty
          exact List.isEmpty_iff.1 hempty
        · cases hend
      · cases hend
    have htext : text = s ++ d.after := hd.after_eq
    rw [hafter, List.append_nil] at htext
    exact htext ▸ hs
  · intro hs
    obtain ⟨d, hd, hafter⟩ := Cursor.exists_reads (c := .start text) (List.append_nil text).symm
    refine ⟨text, hs, d, hd, ?_⟩
    simp [Node.sequence, Node.run, Anchor.holds, hafter]

end FolderTag.Regex
