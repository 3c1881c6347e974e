import FolderTag.Text.Blank
import Mathlib.Data.List.Basic

/-! # Trimming, collapsing and splitting

What trimming and collapsing leave alone, and splitting as the inverse of joining. -/

namespace FolderTag.Text

/-! ## Trimming -/

/-- A text without white space around it. -/
structure IsTrimmed (s : List Char) : Prop where
  head : ∀ c ∈ s.head?, isBlank c = false
  last : ∀ c ∈ s.getLast?, isBlank c = false

theorem dropEndWhile_of_last {p : Char → Bool} {s : List Char}
    (h : ∀ c ∈ s.getLast?, p c = false) : dropEndWhile p s = s := by
  rw [dropEndWhile]
  rcases List.eq_nil_or_concat s with rfl | ⟨t, c, rfl⟩
  · rfl
  · simp only [List.concat_eq_append, List.getLast?_append, List.getLast?_singleton] at h
    have hc := h c (by simp)
    simp [hc]

theorem dropWhile_of_head {p : Char → Bool} {s : List Char}
    (h : ∀ c ∈ s.head?, p c = false) : s.dropWhile p = s := by
  cases s with
  | nil => rfl
  | cons c s =>
      have hc := h c (by simp)
      simp [hc]

section Append

variable {p : Char → Bool} {s t : List Char} (ht : ∀ c ∈ t, p c = true)
  (hs : ∀ c ∈ s.head?, p c = false)

include ht hs

theorem dropWhile_append_of_head : (t ++ s).dropWhile p = s := by
  rw [List.dropWhile_append_of_pos ht, dropWhile_of_head hs]

/-- A run ends where what is behind it stops. -/
theorem takeWhile_append_of_head : (t ++ s).takeWhile p = t := by
  have hsplit := List.takeWhile_append_dropWhile (p := p) (l := t ++ s)
  rw [dropWhile_append_of_head ht hs] at hsplit
  exact List.append_cancel_right hsplit

end Append

theorem trim_of_isTrimmed {s : List Char} (h : IsTrimmed s) : trim s = s := by
  rw [trim, trimWhile, dropWhile_of_head h.head, dropEndWhile_of_last h.last]

theorem mem_dropWhile {p : Char → Bool} {s : List Char} {c : Char} (h : c ∈ s)
    (hc : p c = false) : c ∈ s.dropWhile p := by
  rw [← List.takeWhile_append_dropWhile (p := p) (l := s), List.mem_append] at h
  refine h.resolve_left fun h => ?_
  rw [List.all_eq_true.1 List.all_takeWhile c h] at hc
  cases hc

/-- Trimming takes away only what it is told to. -/
theorem mem_trimWhile {p : Char → Bool} {s : List Char} {c : Char} (h : c ∈ s)
    (hc : p c = false) : c ∈ trimWhile p s := by
  rw [trimWhile, dropEndWhile, List.mem_reverse]
  exact mem_dropWhile (List.mem_reverse.2 (mem_dropWhile h hc)) hc

theorem head?_dropWhile {p : Char → Bool} {s : List Char} {c : Char}
    (h : c ∈ (s.dropWhile p).head?) : p c = false := by
  have hfirst := List.head?_dropWhile_not p s
  rw [Option.mem_def.1 h] at hfirst
  exact hfirst

theorem dropEndWhile_prefix_self (p : Char → Bool) (s : List Char) : dropEndWhile p s <+: s := by
  have hsuffix := List.dropWhile_suffix p (l := s.reverse)
  rwa [← List.reverse_prefix, List.reverse_reverse] at hsuffix

theorem isTrimmed_trim (s : List Char) : IsTrimmed (trim s) where
  head := by
    intro c hc
    obtain ⟨rest, hrest⟩ := dropEndWhile_prefix_self isBlank (s.dropWhile isBlank)
    have hfirst : (dropEndWhile isBlank (s.dropWhile isBlank)).head? = some c := hc
    have hwhole : c ∈ (s.dropWhile isBlank).head? := by
      rw [← hrest, List.head?_append, hfirst]
      rfl
    exact head?_dropWhile hwhole
  last := by
    intro c hc
    rw [trim, trimWhile, dropEndWhile, List.getLast?_reverse] at hc
    exact head?_dropWhile hc

theorem isTrimmed_iff {s : List Char} : IsTrimmed s ↔ trim s = s :=
  ⟨trim_of_isTrimmed, fun h => h ▸ isTrimmed_trim s⟩

instance (s : List Char) : Decidable (IsTrimmed s) := decidable_of_iff _ isTrimmed_iff.symm

theorem trim_cons_of_isBlank {c : Char} (hc : isBlank c = true) (s : List Char) :
    trim (c :: s) = trim s := by
  rw [trim, trim, trimWhile, trimWhile, List.dropWhile_cons, if_pos hc]

theorem trim_concat_of_isBlank {c : Char} (hc : isBlank c = true) (s : List Char) :
    trim (s ++ [c]) = trim s := by
  have hlast : ∀ t, dropEndWhile isBlank (t ++ [c]) = dropEndWhile isBlank t := by
    intro t
    rw [dropEndWhile, dropEndWhile, List.reverse_concat, List.dropWhile_cons, if_pos hc]
  rw [trim, trim, trimWhile, trimWhile, List.dropWhile_append]
  split_ifs with hempty
  · rw [List.isEmpty_iff.1 hempty, List.dropWhile_cons, if_pos hc, List.dropWhile_nil]
  · exact hlast _

theorem mem_of_mem_trim {s : List Char} {c : Char} (h : c ∈ trim s) : c ∈ s :=
  (List.dropWhile_sublist isBlank).subset ((dropEndWhile_prefix_self isBlank _).subset h)

namespace IsTrimmed

theorem nil : IsTrimmed [] := ⟨by simp, by simp⟩

/-- What stands between two texts that are trimmed and say something does not matter. -/
theorem around {a b : List Char} (ha : IsTrimmed a) (hne : a ≠ []) (hb : IsTrimmed b)
    (hb' : b ≠ []) (middle : List Char) : IsTrimmed (a ++ middle ++ b) := by
  constructor
  · rw [List.append_assoc, List.head?_append_of_ne_nil _ hne]
    exact ha.head
  · rw [List.getLast?_append_of_ne_nil _ hb']
    exact hb.last

theorem of_forall {s : List Char} (h : ∀ c ∈ s, isBlank c = false) : IsTrimmed s :=
  ⟨fun c hc => h c (List.mem_of_mem_head? hc), fun c hc => h c (List.mem_of_getLast? hc)⟩

end IsTrimmed

/-! ## Joining -/

theorem joinWith_singleton (sep p : List Char) : joinWith sep [p] = p := by
  simp [joinWith, List.intercalate]

theorem joinWith_cons_cons (sep p q : List Char) (ps : List (List Char)) :
    joinWith sep (p :: q :: ps) = p ++ sep ++ joinWith sep (q :: ps) := by
  simp [joinWith, List.intercalate]

/-- All pieces but the first follow a separator. -/
theorem joinWith_cons (sep p : List Char) (ps : List (List Char)) :
    joinWith sep (p :: ps) = p ++ ps.flatMap (sep ++ ·) := by
  induction ps generalizing p with
  | nil => simp [joinWith_singleton]
  | cons q ps ih =>
      rw [joinWith_cons_cons, ih, List.flatMap_cons, List.append_assoc, List.append_assoc]

theorem joinWith_ne_nil {ps : List (List Char)} (hne : ps ≠ []) (h : ∀ p ∈ ps, p ≠ [])
    (sep : List Char) : joinWith sep ps ≠ [] := by
  obtain ⟨p, ps, rfl⟩ := List.exists_cons_of_ne_nil hne
  rw [joinWith_cons]
  exact List.append_ne_nil_of_left_ne_nil (h p List.mem_cons_self) _

theorem mem_joinWith {sep : List Char} {ps : List (List Char)} {c : Char}
    (h : c ∈ joinWith sep ps) : c ∈ sep ∨ ∃ p ∈ ps, c ∈ p := by
  cases ps with
  | nil => cases h
  | cons p ps =>
      rw [joinWith_cons, List.mem_append, List.mem_flatMap] at h
      rcases h with h | ⟨q, hq, h⟩
      · exact .inr ⟨p, List.mem_cons_self, h⟩
      · rcases List.mem_append.1 h with h | h
        · exact .inl h
        · exact .inr ⟨q, List.mem_cons_of_mem p hq, h⟩

/-- Pieces that say something are joined to a text that begins as the first of them does. -/
theorem exists_mem_of_head?_joinWith {sep : List Char} {ps : List (List Char)} {c : Char}
    (hps : ∀ p ∈ ps, p ≠ []) (h : c ∈ (joinWith sep ps).head?) : ∃ p ∈ ps, c ∈ p := by
  cases ps with
  | nil => cases h
  | cons p ps =>
      rw [joinWith_cons, List.head?_append_of_ne_nil _ (hps p List.mem_cons_self)] at h
      exact ⟨p, List.mem_cons_self, List.mem_of_mem_head? h⟩

theorem flatMap_joinWith (f : Char → List Char) (sep : List Char) (ps : List (List Char)) :
    (joinWith sep ps).flatMap f = joinWith (sep.flatMap f) (ps.map (·.flatMap f)) := by
  induction ps with
  | nil => rfl
  | cons p ps ih =>
      cases ps with
      | nil => simp [joinWith_singleton]
      | cons q ps =>
          rw [joinWith_cons_cons, List.flatMap_append, List.flatMap_append, ih]
          simp [joinWith_cons_cons]

theorem map_joinWith (f : Char → Char) (sep : List Char) (ps : List (List Char)) :
    (joinWith sep ps).map f = joinWith (sep.map f) (ps.map (·.map f)) := by
  simpa [List.map_eq_flatMap] using flatMap_joinWith (fun c => [f c]) sep ps

/-- What every piece begins with can be counted to the separators. -/
theorem joinWith_map_cons (c : Char) (sep : List Char) {ps : List (List Char)} (hne : ps ≠ []) :
    joinWith sep (ps.map (c :: ·)) = c :: joinWith (sep ++ [c]) ps := by
  obtain ⟨p, ps, rfl⟩ := List.exists_cons_of_ne_nil hne
  rw [List.map_cons, joinWith_cons, joinWith_cons, List.flatMap_map]
  simp

theorem isTrimmed_joinWith {sep : List Char} {ps : List (List Char)}
    (h : ∀ p ∈ ps, IsTrimmed p ∧ p ≠ []) : IsTrimmed (joinWith sep ps) := by
  induction ps with
  | nil => exact .nil
  | cons p ps ih =>
      obtain ⟨hp, hne⟩ := h p List.mem_cons_self
      have hps : ∀ q ∈ ps, IsTrimmed q ∧ q ≠ [] := fun q hq => h q (List.mem_cons_of_mem p hq)
      cases ps with
      | nil => rwa [joinWith_singleton]
      | cons q ps =>
          have hrest : joinWith sep (q :: ps) ≠ [] :=
            joinWith_ne_nil (List.cons_ne_nil q ps) (fun r hr => (hps r hr).2) sep
          rw [joinWith_cons_cons]
          exact hp.around hne (ih hps) hrest sep

theorem splitAt_ne_nil (sep : Char) (s : List Char) : splitAt sep s ≠ [] := by
  cases s with
  | nil => simp [splitAt]
  | cons c cs =>
      rw [splitAt]
      split_ifs
      · simp
      · split <;> simp

theorem splitAt_append {sep : Char} {p : List Char} (hp : sep ∉ p) (rest : List Char) :
    splitAt sep (p ++ sep :: rest) = p :: splitAt sep rest := by
  induction p with
  | nil => simp [splitAt]
  | cons c p ih =>
      rw [List.mem_cons, not_or] at hp
      simp [splitAt, ih hp.2, Ne.symm hp.1]

theorem splitAt_of_notMem {sep : Char} {p : List Char} (hp : sep ∉ p) :
    splitAt sep p = [p] := by
  induction p with
  | nil => rfl
  | cons c p ih =>
      rw [List.mem_cons, not_or] at hp
      simp [splitAt, ih hp.2, Ne.symm hp.1]

/-- Splitting undoes joining. -/
theorem splitAt_joinWith {sep : Char} {ps : List (List Char)} (hne : ps ≠ [])
    (h : ∀ p ∈ ps, sep ∉ p) : splitAt sep (joinWith [sep] ps) = ps := by
  induction ps with
  | nil => exact absurd rfl hne
  | cons p ps ih =>
      have hp := h p List.mem_cons_self
      cases ps with
      | nil => rw [joinWith_singleton, splitAt_of_notMem hp]
      | cons q ps =>
          have hps : ∀ r ∈ q :: ps, sep ∉ r := fun r hr => h r (List.mem_cons_of_mem p hr)
          rw [joinWith_cons_cons, List.append_assoc, List.singleton_append, splitAt_append hp,
            ih (List.cons_ne_nil q ps) hps]

/-! ## Collapsing -/

section Collapse

variable {p : Char → Bool} {mark : Char}

theorem collapse_append {s : List Char} (hs : ∀ c ∈ s, p c = false) (rest : List Char) :
    collapse p mark (s ++ rest) = s ++ collapse p mark rest := by
  induction s with
  | nil => rfl
  | cons c s ih =>
      have hc := hs c List.mem_cons_self
      rw [List.cons_append, collapse, if_neg (by simp [hc]),
        ih fun d hd => hs d (List.mem_cons_of_mem c hd)]
      rfl

/-- A run is replaced by one mark. -/
theorem collapse_run {run rest : List Char} (hne : run ≠ []) (hrun : ∀ c ∈ run, p c = true)
    (hrest : ∀ c ∈ rest.head?, p c = false) :
    collapse p mark (run ++ rest) = mark :: collapse p mark rest := by
  obtain ⟨c, run, rfl⟩ := List.exists_cons_of_ne_nil hne
  have hdrop : (run ++ rest).dropWhile p = rest :=
    dropWhile_append_of_head (fun d hd => hrun d (List.mem_cons_of_mem c hd)) hrest
  rw [List.cons_append, collapse, if_pos (hrun c List.mem_cons_self), hdrop]

/-- Runs between words are replaced by one mark each. -/
theorem collapse_joinWith {run : List Char} {ws : List (List Char)} (hne : run ≠ [])
    (hrun : ∀ c ∈ run, p c = true) (hws : ∀ w ∈ ws, w ≠ [] ∧ ∀ c ∈ w, p c = false) :
    collapse p mark (joinWith run ws) = joinWith [mark] ws := by
  induction ws with
  | nil => simp [joinWith, collapse]
  | cons w ws ih =>
      have hw := (hws w List.mem_cons_self).2
      cases ws with
      | nil =>
          have hend := (collapse_append hw [] : collapse p mark _ = _)
          rw [List.append_nil, collapse, List.append_nil] at hend
          rw [joinWith_singleton, joinWith_singleton, hend]
      | cons v ws =>
          have hrest : ∀ u ∈ v :: ws, u ≠ [] ∧ ∀ c ∈ u, p c = false :=
            fun u hu => hws u (List.mem_cons_of_mem w hu)
          have hhead : ∀ c ∈ (joinWith run (v :: ws)).head?, p c = false := by
            intro c hc
            obtain ⟨u, hu, hc⟩ := exists_mem_of_head?_joinWith (fun u hu => (hrest u hu).1) hc
            exact (hrest u hu).2 c hc
          rw [joinWith_cons_cons, joinWith_cons_cons, List.append_assoc, collapse_append hw,
            collapse_run hne hrun hhead, ih hrest]
          simp

end Collapse

end FolderTag.Text
