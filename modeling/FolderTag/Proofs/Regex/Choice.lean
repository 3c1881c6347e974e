import FolderTag.Proofs.Regex.Language
import FolderTag.Proofs.Regex.Reading

/-! # Choices

A choice is rearranged: what all of its rows begin with is read once, and a choice between single
characters becomes a set. It is as wide as before, passes the check as before and can be repeated as
before. -/

namespace FolderTag.Regex

namespace Width

/-- The width of one expression after another. -/
def join (x y : Width) : Width := clamp ⟨x.low + y.low, x.high + y.high⟩

/-- The width of one of two expressions. -/
def either (x y : Width) : Width := ⟨min x.low y.low, max x.high y.high⟩

/-- The width of one of several expressions. -/
def eitherOf : List Width → Width
  | [] => ⟨0, 0⟩
  | [x] => x
  | x :: y :: xs => x.either (eitherOf (y :: xs))

/-- Both bounds are told apart. -/
def IsBounded (x : Width) : Prop := x.low ≤ limit ∧ x.high ≤ limit

variable {x y z : Width} {xs : List Width}

theorem isBounded_clamp (x : Width) : (clamp x).IsBounded :=
  ⟨Nat.min_le_right _ _, Nat.min_le_right _ _⟩

theorem isBounded_zero : IsBounded ⟨0, 0⟩ := ⟨Nat.zero_le _, Nat.zero_le _⟩

theorem isBounded_one : IsBounded ⟨1, 1⟩ := ⟨by decide, by decide⟩

theorem IsBounded.either (hx : x.IsBounded) (hy : y.IsBounded) : (x.either y).IsBounded :=
  ⟨Nat.le_trans (Nat.min_le_left _ _) hx.1, Nat.max_le.2 ⟨hx.2, hy.2⟩⟩

theorem join_zero (h : x.IsBounded) : x.join ⟨0, 0⟩ = x := by
  obtain ⟨low, high⟩ := x
  simp only [IsBounded] at h
  simp [join, clamp, h]

theorem zero_join (h : x.IsBounded) : join ⟨0, 0⟩ x = x := by
  obtain ⟨low, high⟩ := x
  simp only [IsBounded] at h
  simp [join, clamp, h]

theorem join_assoc (x y z : Width) : (x.join y).join z = x.join (y.join z) := by
  simp only [join, clamp, mk.injEq]
  omega

theorem join_either (x y z : Width) : x.join (y.either z) = (x.join y).either (x.join z) := by
  simp only [join, either, clamp, mk.injEq]
  omega

theorem join_eitherOf (x : Width) (h : xs ≠ []) :
    x.join (eitherOf xs) = eitherOf (xs.map x.join) := by
  fun_induction eitherOf xs with
  | case1 => exact absurd rfl h
  | case2 y => rfl
  | case3 y z xs ih =>
      rw [join_either, ih (List.cons_ne_nil z xs)]
      rfl

theorem eitherOf_const (h : ∀ y ∈ xs, y = x) (hne : xs ≠ []) : eitherOf xs = x := by
  fun_induction eitherOf xs with
  | case1 => exact absurd rfl hne
  | case2 y => exact h y (List.mem_singleton_self y)
  | case3 y z xs ih =>
      rw [List.forall_mem_cons] at h
      rw [ih h.2 (List.cons_ne_nil z xs), h.1]
      simp [either]

end Width

namespace Node

variable {widths : List (Option Width)} {flags : Flags} {ns : List Node} {rows : List (List Node)}

/-! ## Rows of items -/

/-- Splitting off what rows have in common only moves it in front. -/
theorem map_splitCommon (row : List Node) (rows : List (List Node)) :
    (splitCommon row rows).2.map ((splitCommon row rows).1 ++ ·) = row :: rows := by
  fun_induction splitCommon row rows with
  | case1 rows => simp
  | case2 x xs rows hplain common rest hcommon ih =>
      rw [hcommon] at ih
      rw [Bool.and_eq_true, List.all_eq_true] at hplain
      have hrows : rows.map (x :: ·.tail) = rows := by
        refine (List.map_congr_left fun row hrow => ?_).trans (List.map_id rows)
        obtain ⟨row, rfl⟩ := List.head?_eq_some_iff.1 (eq_of_beq (hplain.2 row hrow))
        rfl
      have hbehind : rest.map (x :: common ++ ·) = (rest.map (common ++ ·)).map (x :: ·) := by
        rw [List.map_map]
        rfl
      rw [hbehind, ih, List.map_cons, List.map_map]
      exact congrArg _ hrows
  | case3 x xs rows h => simp

theorem rows_ne_nil_of_splitCommon (row : List Node) (rows : List (List Node)) :
    (splitCommon row rows).2 ≠ [] := by
  intro h
  have hmap := map_splitCommon row rows
  rw [h] at hmap
  cases hmap

theorem exists_members_of_mapM {sets : List (List SetItem)} (h : rows.mapM members? = some sets) :
    ∀ row ∈ rows, ∃ members, members? row = some members := by
  induction rows generalizing sets with
  | nil => simp
  | cons row rows ih =>
      rw [List.mapM_cons] at h
      obtain ⟨members, hmembers, h⟩ := Option.bind_eq_some_iff.1 h
      obtain ⟨others, hothers, -⟩ := Option.bind_eq_some_iff.1 h
      exact List.forall_mem_cons.2 ⟨⟨members, hmembers⟩, ih hothers⟩

/-- A choice reads what its rows have in common, and then one of the rows that are left. When these
are single characters it is a set of them. -/
theorem exists_choice_eq (n m : Node) (ns : List Node) : ∃ common rows, rows ≠ [] ∧
    rows.map (common ++ ·) = (n :: m :: ns).map items ∧
    (choice n (m :: ns) = sequence (common ++ [branches rows]) ∨
      (∀ row ∈ rows, ∃ members, members? row = some members) ∧
        ∃ members, choice n (m :: ns) = sequence (common ++ [.set false members])) := by
  refine ⟨_, _, rows_ne_nil_of_splitCommon n.items ((m :: ns).map items),
    map_splitCommon n.items ((m :: ns).map items), ?_⟩
  rw [choice.eq_2 n (m :: ns) nofun]
  dsimp only
  split
  · rename_i sets hsets
    exact .inr ⟨exists_members_of_mapM hsets, _, rfl⟩
  · exact .inl rfl

/-! ## Width -/

theorem width_isBounded (n : Node) : (n.width widths).IsBounded := by
  induction n with
  | empty => exact Width.isBounded_zero
  | seq a b => exact Width.isBounded_clamp _
  | alt a b iha ihb => exact iha.either ihb
  | code negated n => exact Width.isBounded_one
  | any => exact Width.isBounded_one
  | set negated items => exact Width.isBounded_one
  | anchor a => exact Width.isBounded_zero
  | group index on off body ih => exact ih
  | atomic body ih => exact ih
  | rep greed low high body =>
      cases high with
      | none => exact Width.isBounded_clamp _
      | some h => exact Width.isBounded_clamp _
  | look behind negated body => exact Width.isBounded_zero
  | backref g => exact Width.isBounded_clamp _
  | cond g yes no ihyes ihno => exact ihyes.either ihno

/-- The width of items one after another. -/
def rowWidth (widths : List (Option Width)) (row : List Node) : Width :=
  row.foldr (fun n w => (n.width widths).join w) ⟨0, 0⟩

theorem rowWidth_eq (row : List Node) :
    rowWidth widths row = (row.map (·.width widths)).foldr Width.join ⟨0, 0⟩ :=
  List.foldr_map.symm

theorem rowWidth_isBounded (row : List Node) : (rowWidth widths row).IsBounded := by
  cases row with
  | nil => exact Width.isBounded_zero
  | cons n row => exact Width.isBounded_clamp _

theorem rowWidth_append (row row' : List Node) :
    rowWidth widths (row ++ row') = (rowWidth widths row).join (rowWidth widths row') := by
  induction row with
  | nil => exact (Width.zero_join (rowWidth_isBounded row')).symm
  | cons n row ih =>
      change (n.width widths).join (rowWidth widths (row ++ row')) = _
      rw [ih, ← Width.join_assoc]
      rfl

theorem width_sequence (row : List Node) : (sequence row).width widths = rowWidth widths row := by
  fun_induction sequence row with
  | case1 => rfl
  | case2 n => exact (Width.join_zero n.width_isBounded).symm
  | case3 n n' row ih => exact congrArg (n.width widths).join ih

theorem rowWidth_items (n : Node) : rowWidth widths n.items = n.width widths := by
  fun_induction items n with
  | case1 => rfl
  | case2 a b iha ihb =>
      rw [rowWidth_append, iha, ihb]
      rfl
  | case3 on off body h ih => exact ih
  | case4 on off body h => exact Width.join_zero (width_isBounded _)
  | case5 n => exact Width.join_zero (width_isBounded _)

theorem width_branches (h : rows ≠ []) :
    (branches rows).width widths = Width.eitherOf (rows.map (rowWidth widths)) := by
  fun_induction branches rows with
  | case1 => exact absurd rfl h
  | case2 row => exact width_sequence row
  | case3 row rows hrows ih =>
      cases rows with
      | nil => exact absurd rfl hrows
      | cons row' rows =>
          rw [width, ih (List.cons_ne_nil row' rows), width_sequence]
          rfl

/-- A single character is one character wide. -/
theorem rowWidth_of_members? {row : List Node} {members : List SetItem}
    (h : members? row = some members) : rowWidth widths row = ⟨1, 1⟩ := by
  unfold members? at h
  split at h
  · exact Width.join_zero Width.isBounded_one
  · exact Width.join_zero Width.isBounded_one
  · cases h

/-- A choice is as wide as one of its branches. -/
theorem width_choice (n : Node) (ns : List Node) :
    (choice n ns).width widths = Width.eitherOf ((n :: ns).map (·.width widths)) := by
  cases ns with
  | nil => rfl
  | cons m ns =>
      obtain ⟨common, rows, hne, hrows, hchoice⟩ := exists_choice_eq n m ns
      have hwidth : (rowWidth widths common).join (Width.eitherOf (rows.map (rowWidth widths))) =
          Width.eitherOf ((n :: m :: ns).map (·.width widths)) := by
        have hitems : ((n :: m :: ns).map items).map (rowWidth widths) =
            (n :: m :: ns).map (·.width widths) := by
          rw [List.map_map]
          exact List.map_congr_left fun n _ => rowWidth_items n
        rw [← hitems, ← hrows, Width.join_eitherOf _ (by simpa using hne), List.map_map,
          List.map_map]
        congr 2
        funext row
        exact (rowWidth_append common row).symm
      rw [← hwidth]
      rcases hchoice with hchoice | ⟨hmembers, members, hchoice⟩
      · rw [hchoice, width_sequence, rowWidth_append]
        exact congrArg _ ((Width.join_zero (width_isBounded _)).trans (width_branches hne))
      · have hone : Width.eitherOf (rows.map (rowWidth widths)) = ⟨1, 1⟩ := by
          refine Width.eitherOf_const (fun w hw => ?_) (by simpa using hne)
          obtain ⟨row, hrow, rfl⟩ := List.mem_map.1 hw
          obtain ⟨members, hmembers⟩ := hmembers row hrow
          exact rowWidth_of_members? hmembers
        rw [hchoice, width_sequence, rowWidth_append, hone]
        exact congrArg _ (Width.join_zero Width.isBounded_one)

/-! ## The check -/

/-- All items of a row pass the check. -/
def RowPasses (widths : List (Option Width)) (flags : Flags) (row : List Node) : Prop :=
  ∀ n ∈ row, n.check widths flags = .ok ()

theorem rowPasses_append_iff {row row' : List Node} :
    RowPasses widths flags (row ++ row') ↔
      RowPasses widths flags row ∧ RowPasses widths flags row' := List.forall_mem_append

theorem check_items_iff (n : Node) :
    RowPasses widths flags n.items ↔ n.check widths flags = .ok () := by
  fun_induction items n with
  | case1 => simp [check, RowPasses]
  | case2 a b iha ihb => rw [rowPasses_append_iff, iha, ihb, check, seq_eq_ok_iff]
  | case3 on off body h ih =>
      obtain ⟨rfl, rfl⟩ := h
      rw [check, Flags.within_none]
      exact ih
  | case4 on off body h => simp [RowPasses]
  | case5 n => simp [RowPasses]

theorem check_branches_iff (h : rows ≠ []) :
    (branches rows).check widths flags = .ok () ↔ ∀ row ∈ rows, RowPasses widths flags row := by
  fun_induction branches rows with
  | case1 => exact absurd rfl h
  | case2 row => simp [check_sequence_iff, RowPasses]
  | case3 row rows hrows ih =>
      rw [check, seq_eq_ok_iff, check_sequence_iff, List.forall_mem_cons, ih fun h => hrows h]
      rfl

theorem rowPasses_of_members? {row : List Node} {members : List SetItem}
    (h : members? row = some members) : RowPasses widths flags row := by
  unfold members? at h
  split at h
  · simp [RowPasses, check]
  · simp [RowPasses, check]
  · cases h

/-- A choice passes the check exactly when all of its branches do. -/
theorem check_choice_iff (n : Node) (ns : List Node) :
    (choice n ns).check widths flags = .ok () ↔
      ∀ x ∈ n :: ns, x.check widths flags = .ok () := by
  cases ns with
  | nil => simp [choice]
  | cons m ns =>
      obtain ⟨common, rows, hne, hrows, hchoice⟩ := exists_choice_eq n m ns
      have hpasses : (∀ x ∈ n :: m :: ns, x.check widths flags = .ok ()) ↔
          RowPasses widths flags common ∧ ∀ row ∈ rows, RowPasses widths flags row := by
        have hitems : (∀ x ∈ n :: m :: ns, x.check widths flags = .ok ()) ↔
            ∀ row ∈ (n :: m :: ns).map items, RowPasses widths flags row := by
          simp [check_items_iff]
        obtain ⟨row, hrow⟩ := List.exists_mem_of_ne_nil rows hne
        rw [hitems, ← hrows, List.forall_mem_map]
        refine ⟨fun h => ⟨(rowPasses_append_iff.1 (h row hrow)).1, fun row hrow => ?_⟩,
          fun h row hrow => rowPasses_append_iff.2 ⟨h.1, h.2 row hrow⟩⟩
        exact (rowPasses_append_iff.1 (h row hrow)).2
      rw [hpasses]
      rcases hchoice with hchoice | ⟨hmembers, members, hchoice⟩
      · rw [hchoice, check_sequence_iff, ← RowPasses, rowPasses_append_iff,
          ← check_branches_iff hne]
        simp [RowPasses]
      · rw [hchoice, check_sequence_iff, ← RowPasses, rowPasses_append_iff]
        refine and_congr_right' (iff_of_true (by simp [RowPasses, check]) fun row hrow => ?_)
        obtain ⟨members, hmembers⟩ := hmembers row hrow
        exact rowPasses_of_members? hmembers

/-! ## Repetition -/

theorem isRepeatable_sequence_append {n : Node} (hn : n.isRepeatable = true) (row : List Node) :
    (sequence (row ++ [n])).isRepeatable = true := by
  match row with
  | [] => exact hn
  | [x] => rfl
  | x :: y :: row => rfl

/-- A choice between several branches can be repeated. -/
theorem isRepeatable_choice (n m : Node) (ns : List Node) :
    (choice n (m :: ns)).isRepeatable = true := by
  obtain ⟨common, rows, hne, hrows, hchoice | ⟨-, members, hchoice⟩⟩ := exists_choice_eq n m ns
  · rw [hchoice]
    refine isRepeatable_sequence_append ?_ common
    cases rows with
    | nil => exact absurd rfl hne
    | cons row rest =>
        cases rest with
        | nil => simp at hrows
        | cons row' rest => rfl
  · rw [hchoice]
    exact isRepeatable_sequence_append rfl common

end Node

end FolderTag.Regex
