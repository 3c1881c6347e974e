import FolderTag.Regex.Cursor

/-! # Moves of a cursor

A cursor only moves over the characters behind it, so the text around it never changes. -/

namespace FolderTag.Regex.Cursor

theorem eq_of_sides {c d : Cursor} (hbefore : c.before = d.before) (hafter : c.after = d.after) :
    c = d := by
  cases c with
  | mk b a i h =>
      cases d with
      | mk b' a' i' h' =>
          simp only at hbefore hafter
          subst hbefore hafter h h'
          rfl

/-- From `c` to `d` the characters `s` are read. -/
structure Reads (c : Cursor) (s : List Char) (d : Cursor) : Prop where
  before_eq : d.before = s.reverse ++ c.before
  after_eq : c.after = s ++ d.after

namespace Reads

theorem nil (c : Cursor) : Reads c [] c := ⟨rfl, rfl⟩

theorem eq_of_nil {c d : Cursor} (h : Reads c [] d) : d = c :=
  eq_of_sides (by simpa using h.before_eq) (by simpa using h.after_eq.symm)

theorem append {c d e : Cursor} {s t : List Char} (hs : Reads c s d) (ht : Reads d t e) :
    Reads c (s ++ t) e := by
  refine ⟨?_, ?_⟩
  · rw [ht.before_eq, hs.before_eq, List.reverse_append, List.append_assoc]
  · rw [hs.after_eq, ht.after_eq, List.append_assoc]

theorem index_eq {c d : Cursor} {s : List Char} (h : Reads c s d) :
    d.index = c.index + s.length := by
  rw [d.index_eq, c.index_eq, h.before_eq, List.length_append, List.length_reverse]
  omega

theorem text_eq {c d : Cursor} {s : List Char} (h : Reads c s d) : d.text = c.text := by
  rw [text, text, h.before_eq, h.after_eq]
  simp

theorem length_after {c d : Cursor} {s : List Char} (h : Reads c s d) :
    c.after.length = s.length + d.after.length := by
  rw [h.after_eq, List.length_append]

theorem upTo_eq {c d : Cursor} {s : List Char} (h : Reads c s d) : c.upTo d = s := by
  rw [upTo, h.after_eq, h.index_eq, Nat.add_sub_cancel_left, List.take_left]

end Reads

/-- A text at the cursor can be read. -/
theorem exists_reads {c : Cursor} {s rest : List Char} (h : c.after = s ++ rest) :
    ∃ d, Reads c s d ∧ d.after = rest :=
  ⟨⟨s.reverse ++ c.before, rest, _, rfl⟩, ⟨rfl, h⟩, rfl⟩

/-- What is read in one go can be read in two. -/
theorem Reads.split {c e : Cursor} {s t : List Char} (h : Reads c (s ++ t) e) :
    ∃ d, Reads c s d ∧ Reads d t e := by
  have hafter : c.after = s ++ (t ++ e.after) := by rw [h.after_eq, List.append_assoc]
  obtain ⟨d, hd, hrest⟩ := exists_reads hafter
  refine ⟨d, hd, ?_, hrest⟩
  rw [h.before_eq, hd.before_eq, List.reverse_append, List.append_assoc]

theorem next?_eq_some_iff {c d : Cursor} {x : Char} :
    c.next? = some (x, d) ↔ Reads c [x] d := by
  cases c with
  | mk b a i h =>
      cases a with
      | nil =>
          constructor
          · intro hn
            simp [next?] at hn
          · intro hr
            have := hr.after_eq
            simp at this
      | cons y ys =>
          constructor
          · intro hn
            simp only [next?, Option.some.injEq, Prod.mk.injEq] at hn
            obtain ⟨rfl, rfl⟩ := hn
            exact ⟨rfl, rfl⟩
          · intro hr
            have hafter := hr.after_eq
            simp only [List.singleton_append, List.cons.injEq] at hafter
            obtain ⟨rfl, rfl⟩ := hafter
            simp only [next?, Option.some.injEq, Prod.mk.injEq, true_and]
            exact eq_of_sides hr.before_eq.symm rfl

end FolderTag.Regex.Cursor
