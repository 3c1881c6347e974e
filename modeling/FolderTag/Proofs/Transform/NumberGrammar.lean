import FolderTag.Proofs.Text.Collapse
import FolderTag.Proofs.Transform.Stripping

/-! # The grammar of numbers in front of names

A text with a number in front is digits, a divider and one line with the name in it. White space may
stand in a divider as well as in a name, so that a text can be split in more than one way. What is
read is the split with the longest divider, and that has a hyphen in it if any divider has. -/

namespace FolderTag.Transform

open FolderTag.Text

variable {form form' : List Char → Prop} {c : Char} {found found' : Option (List Char)}
  {s t front line number number' sep sep' rest rest' : List Char}

/-! ## Lines -/

/-- One line that is not empty. It may end with a line break. -/
def IsLine (s : List Char) : Prop :=
  ∃ line, line ≠ [] ∧ '\n' ∉ line ∧ (s = line ∨ s = line ++ ['\n'])

theorem lastLine?_eq_some_iff : lastLine? s = some line ↔
    line ≠ [] ∧ '\n' ∉ line ∧ (s = line ∨ s = line ++ ['\n']) := by
  constructor
  · intro h
    have hbreak := newline_notMem_of_lastLine h
    have hsplit := List.takeWhile_append_dropWhile (p := (· != '\n')) (l := s)
    rw [lastLine?] at h
    split_ifs at h with hempty hend
    obtain rfl := Option.some.inj h
    refine ⟨by simpa using hempty, hbreak, ?_⟩
    rw [Bool.or_eq_true, List.isEmpty_iff, beq_iff_eq] at hend
    rcases hend with hend | hend
    · rw [hend, List.append_nil] at hsplit
      exact .inl hsplit.symm
    · rw [hend] at hsplit
      exact .inr hsplit.symm
  · rintro ⟨hne, hbreak, rfl | rfl⟩
    · exact lastLine?_of_notMem hne hbreak
    · have hplain := forall_bne_of_newline_notMem hbreak
      have hstop : ∀ c ∈ ['\n'].head?, (c != '\n') = false := by simp
      simp [lastLine?, takeWhile_append_of_head hplain hstop,
        dropWhile_append_of_head hplain hstop, hne]

theorem isLine_iff : IsLine s ↔ ∃ line, lastLine? s = some line :=
  exists_congr fun _ => lastLine?_eq_some_iff.symm

theorem trim_of_lastLine (h : lastLine? s = some line) : trim line = trim s := by
  obtain ⟨-, -, rfl | rfl⟩ := lastLine?_eq_some_iff.1 h
  · rfl
  · rw [trim_concat_of_isBlank (by decide)]

/-! ## Forms of dividers -/

def IsWhite (s : List Char) : Prop := ∀ c ∈ s, isBlank c = true

/-- White space that is there. -/
def IsRun (sep : List Char) : Prop := sep ≠ [] ∧ IsWhite sep

/-- A hyphen with white space around it. -/
def IsHyphen (sep : List Char) : Prop :=
  ∃ before after, IsWhite before ∧ IsWhite after ∧ sep = before ++ '-' :: after

/-- White space, or a point and white space. -/
def IsGap (sep : List Char) : Prop :=
  ∃ dot blanks, (dot = [] ∨ dot = ['.']) ∧ IsRun blanks ∧ sep = dot ++ blanks

def IsDivider (sep : List Char) : Prop := IsHyphen sep ∨ IsGap sep

theorem isWhite_cons_iff : IsWhite (c :: s) ↔ isBlank c = true ∧ IsWhite s := List.forall_mem_cons

theorem isWhite_iff : IsWhite sep ↔ IsRun sep ∨ sep = [] := by
  by_cases hsep : sep = []
  · simp [IsWhite, hsep]
  · simp [IsRun, hsep]

/-! ## The longest separator of a form -/

/-- `sep` is of a form and stands in front of the last line of `s`. -/
structure IsCut (form : List Char → Prop) (s sep rest : List Char) : Prop where
  eq_append : s = sep ++ rest
  isForm : form sep
  isLine : IsLine rest

/-- The line that is found is the one behind the longest separator. -/
inductive Finds (form : List Char → Prop) (s : List Char) : Option (List Char) → Prop
  | line {sep rest line : List Char} (cut : IsCut form s sep rest)
      (longest : ∀ sep' rest', IsCut form s sep' rest' → sep'.length ≤ sep.length)
      (read : lastLine? rest = some line) : Finds form s (some line)
  | none (not_cut : ∀ sep rest, ¬ IsCut form s sep rest) : Finds form s none

namespace IsCut

theorem eq_of_length (h : IsCut form s sep rest) (h' : IsCut form' s sep' rest')
    (hlength : sep.length = sep'.length) : sep = sep' ∧ rest = rest' :=
  List.append_inj (h.eq_append.symm.trans h'.eq_append) hlength

theorem eq_nil (hc : isBlank c = false) (h : IsCut IsWhite (c :: s) sep rest) : sep = [] := by
  cases sep with
  | nil => rfl
  | cons d sep =>
      obtain ⟨rfl, -⟩ := List.cons.inj h.eq_append
      rw [(isWhite_cons_iff.1 h.isForm).1] at hc
      cases hc

theorem or_iff : IsCut (fun sep => form sep ∨ form' sep) s sep rest ↔
    IsCut form s sep rest ∨ IsCut form' s sep rest := by
  constructor
  · rintro ⟨hs, hform | hform, hline⟩
    · exact .inl ⟨hs, hform, hline⟩
    · exact .inr ⟨hs, hform, hline⟩
  · rintro (h | h)
    · exact ⟨h.eq_append, .inl h.isForm, h.isLine⟩
    · exact ⟨h.eq_append, .inr h.isForm, h.isLine⟩

end IsCut

namespace Finds

theorem of_iff (h : ∀ sep rest, IsCut form s sep rest ↔ IsCut form' s sep rest)
    (hfinds : Finds form' s found) : Finds form s found := by
  cases hfinds with
  | line cut longest read =>
      exact .line ((h _ _).2 cut) (fun sep rest hcut => longest sep rest ((h sep rest).1 hcut)) read
  | none not_cut => exact .none fun sep rest hcut => not_cut sep rest ((h sep rest).1 hcut)

theorem exists_longest (hfinds : Finds form s found) (h : IsCut form s sep rest) :
    ∃ sep rest, IsCut form s sep rest ∧
      ∀ sep' rest', IsCut form s sep' rest' → sep'.length ≤ sep.length := by
  cases hfinds with
  | line cut longest _ => exact ⟨_, _, cut, longest⟩
  | none not_cut => exact absurd h (not_cut sep rest)

/-- What all separators begin with may be left out in the search for the longest. -/
theorem behind (h : ∀ sep rest, IsCut form s sep rest ↔
      ∃ after, sep = front ++ after ∧ IsCut form' t after rest)
    (hfinds : Finds form' t found) : Finds form s found := by
  cases hfinds with
  | line cut longest read =>
      refine .line ((h _ _).2 ⟨_, rfl, cut⟩) (fun sep rest hcut => ?_) read
      obtain ⟨after, rfl, hafter⟩ := (h sep rest).1 hcut
      have := longest after rest hafter
      simpa using this
  | none not_cut =>
      refine .none fun sep rest hcut => ?_
      obtain ⟨after, -, hafter⟩ := (h sep rest).1 hcut
      exact not_cut after rest hafter

/-- A form whose separators are longer is looked for first. -/
theorem or (h : ∀ sep rest sep' rest', IsCut form s sep rest → IsCut form' s sep' rest' →
      sep'.length ≤ sep.length)
    (hfinds : Finds form s found) (hfinds' : Finds form' s found') :
    Finds (fun sep => form sep ∨ form' sep) s (found.or found') := by
  cases hfinds with
  | line cut longest read =>
      refine .line (IsCut.or_iff.2 (.inl cut)) (fun sep rest hcut => ?_) read
      exact (IsCut.or_iff.1 hcut).elim (longest sep rest) fun hcut => h _ _ sep rest cut hcut
  | none not_cut =>
      refine of_iff (fun sep rest => ?_) hfinds'
      rw [IsCut.or_iff, or_iff_right (not_cut sep rest)]

end Finds

theorem finds_lastLine (s : List Char) : Finds (· = []) s (lastLine? s) := by
  cases h : lastLine? s with
  | some line =>
      exact .line ⟨rfl, rfl, isLine_iff.2 ⟨line, h⟩⟩ (fun sep _ hcut => by rw [hcut.isForm]) h
  | none =>
      refine .none fun sep rest hcut => ?_
      obtain ⟨line, hline⟩ := isLine_iff.1 hcut.isLine
      have hs : s = rest := by simpa [hcut.isForm] using hcut.eq_append
      rw [← hs, h] at hline
      cases hline

theorem isCut_isRun_cons_iff (hc : isBlank c = true) : IsCut IsRun (c :: s) sep rest ↔
    ∃ after, sep = [c] ++ after ∧ IsCut IsWhite s after rest := by
  constructor
  · rintro ⟨hs, ⟨hne, hwhite⟩, hline⟩
    obtain ⟨d, after, rfl⟩ := List.exists_cons_of_ne_nil hne
    obtain ⟨rfl, htail⟩ := List.cons.inj hs
    exact ⟨after, rfl, htail, (isWhite_cons_iff.1 hwhite).2, hline⟩
  · rintro ⟨after, rfl, hs, hwhite, hline⟩
    exact ⟨by rw [hs]; rfl, ⟨by simp, isWhite_cons_iff.2 ⟨hc, hwhite⟩⟩, hline⟩

/-- As much white space is left out as leaves a line, and no less. -/
theorem finds_lineBehindBlanks (s : List Char) : Finds IsWhite s (lineBehindBlanks? s) := by
  induction s with
  | nil =>
      refine .none fun sep rest hcut => ?_
      obtain ⟨-, rfl⟩ := List.append_eq_nil_iff.1 hcut.eq_append.symm
      obtain ⟨line, hline⟩ := isLine_iff.1 hcut.isLine
      cases hline
  | cons c s ih =>
      rw [lineBehindBlanks?]
      split_ifs with hc
      · have hrun : Finds IsRun (c :: s) (lineBehindBlanks? s) :=
          .behind (fun _ _ => isCut_isRun_cons_iff hc) ih
        -- Nothing is left out only if leaving out `c` leaves no line.
        have heither := hrun.or (fun sep rest sep' rest' _ hempty => by simp [hempty.isForm])
          (finds_lastLine (c :: s))
        exact (funext fun _ => propext isWhite_iff : IsWhite = _) ▸ heither
      · rw [Bool.not_eq_true] at hc
        refine .of_iff (fun sep rest => ⟨fun hcut => ?_, fun hcut => ?_⟩) (finds_lastLine (c :: s))
        · exact ⟨hcut.eq_append, hcut.eq_nil hc, hcut.isLine⟩
        · exact ⟨hcut.eq_append, isWhite_iff.2 (.inr hcut.isForm), hcut.isLine⟩

/-! ## Behind a hyphen -/

/-- There is one place for the hyphen: behind the white space at the beginning. -/
theorem IsCut.of_isHyphen (h : IsCut IsHyphen s sep rest) :
    ∃ after, sep = s.takeWhile isBlank ++ '-' :: after ∧
      s.dropWhile isBlank = '-' :: (after ++ rest) ∧ IsWhite after := by
  obtain ⟨before, after, hbefore, hafter, rfl⟩ := h.isForm
  have hs : s = before ++ '-' :: (after ++ rest) := by simpa using h.eq_append
  have hstop : ∀ c ∈ ('-' :: (after ++ rest)).head?, isBlank c = false := by
    simp only [List.head?_cons, Option.mem_def, Option.some.injEq, forall_eq']
    decide
  refine ⟨after, ?_, ?_, hafter⟩
  · rw [hs, takeWhile_append_of_head hbefore hstop]
  · rw [hs, dropWhile_append_of_head hbefore hstop]

theorem finds_behindHyphen (s : List Char) : Finds IsHyphen s (behindHyphen? s) := by
  rw [behindHyphen?]
  split
  next t ht =>
    have hcut : ∀ sep rest, IsCut IsHyphen s sep rest ↔
        ∃ after, sep = (s.takeWhile isBlank ++ ['-']) ++ after ∧ IsCut IsWhite t after rest := by
      intro sep rest
      constructor
      · intro h
        obtain ⟨after, rfl, hdrop, hafter⟩ := h.of_isHyphen
        obtain ⟨-, rfl⟩ := List.cons.inj (ht.symm.trans hdrop)
        exact ⟨after, by simp, rfl, hafter, h.isLine⟩
      · rintro ⟨after, rfl, rfl, hafter, hline⟩
        have hs : s = s.takeWhile isBlank ++ '-' :: (after ++ rest) := by
          rw [← ht, List.takeWhile_append_dropWhile]
        have hbefore : IsWhite (s.takeWhile isBlank) := List.all_eq_true.1 List.all_takeWhile
        exact ⟨by simpa using hs, ⟨_, after, hbefore, hafter, by simp⟩, hline⟩
    exact .behind hcut (finds_lineBehindBlanks t)
  next hnone =>
    refine .none fun sep rest h => ?_
    obtain ⟨after, -, hdrop, -⟩ := h.of_isHyphen
    exact hnone _ hdrop

/-! ## Behind a point or white space -/

/-- What may be a point in front of `s` is one if there is one. -/
def IsPoint (dot s : List Char) : Prop := dot = [] ∧ s.head? ≠ some '.' ∨ dot = ['.']

theorem exists_isPoint (s : List Char) : ∃ dot t, IsPoint dot t ∧ s = dot ++ t := by
  by_cases hs : s.head? = some '.'
  · obtain ⟨t, rfl⟩ := List.head?_eq_some_iff.1 hs
    exact ⟨['.'], t, .inr rfl, rfl⟩
  · exact ⟨[], s, .inl ⟨rfl, hs⟩, rfl⟩

theorem isCut_isGap_iff {dot : List Char} (hdot : IsPoint dot s) :
    IsCut IsGap (dot ++ s) sep rest ↔
      ∃ blanks, sep = dot ++ blanks ∧ IsCut IsRun s blanks rest := by
  constructor
  · rintro ⟨hs, ⟨dot', blanks, hdot', hblanks, rfl⟩, hline⟩
    obtain ⟨c, after, rfl⟩ := List.exists_cons_of_ne_nil hblanks.1
    have hpoint : c ≠ '.' := by
      rintro rfl
      exact absurd (isWhite_cons_iff.1 hblanks.2).1 (by decide)
    have hsame : dot = dot' := by
      rcases hdot with ⟨rfl, hhead⟩ | rfl <;> rcases hdot' with rfl | rfl
      · rfl
      · exact absurd (by rw [List.nil_append] at hs; rw [hs]; rfl) hhead
      · exact absurd (List.cons.inj hs).1.symm hpoint
      · rfl
    subst hsame
    rw [List.append_assoc] at hs
    exact ⟨c :: after, rfl, List.append_cancel_left hs, hblanks, hline⟩
  · rintro ⟨blanks, rfl, rfl, hblanks, hline⟩
    exact ⟨(List.append_assoc ..).symm, ⟨dot, blanks, hdot.imp_left And.left, hblanks, rfl⟩, hline⟩

theorem behindDot?_append {dot : List Char} (hdot : IsPoint dot s) : behindDot? (dot ++ s) =
    if s.head?.any isBlank then lineBehindBlanks? s.tail else none := by
  rcases hdot with ⟨rfl, hhead⟩ | rfl
  · cases s with
    | nil => rfl
    | cons c s =>
        rw [List.nil_append, behindDot?.eq_def]
        split
        next t hpoint =>
          obtain ⟨rfl, -⟩ := List.cons.inj hpoint
          exact absurd rfl hhead
        next => rfl
  · cases s <;> rfl

theorem finds_behindRun (s : List Char) :
    Finds IsRun s (if s.head?.any isBlank then lineBehindBlanks? s.tail else none) := by
  split_ifs with hblank
  · obtain ⟨c, hhead, hc⟩ := (Option.any_eq_true ..).1 hblank
    obtain ⟨t, rfl⟩ := List.head?_eq_some_iff.1 hhead
    exact .behind (fun _ _ => isCut_isRun_cons_iff hc) (finds_lineBehindBlanks t)
  · refine .none fun sep rest hcut => hblank ?_
    obtain ⟨c, after, rfl⟩ := List.exists_cons_of_ne_nil hcut.isForm.1
    rw [hcut.eq_append]
    exact (isWhite_cons_iff.1 hcut.isForm.2).1

theorem finds_behindDot (s : List Char) : Finds IsGap s (behindDot? s) := by
  obtain ⟨dot, t, hdot, rfl⟩ := exists_isPoint s
  rw [behindDot?_append hdot]
  exact .behind (fun _ _ => isCut_isGap_iff hdot) (finds_behindRun t)

/-! ## Either divider -/

/-- If a hyphen divides, no divider without one is as long. -/
theorem IsCut.length_lt_of_isHyphen (h : IsCut IsHyphen s sep rest)
    (h' : IsCut IsGap s sep' rest') : sep'.length < sep.length := by
  obtain ⟨after, rfl, hdrop, -⟩ := h.of_isHyphen
  obtain ⟨dot, blanks, hdot, ⟨-, hwhite⟩, rfl⟩ := h'.isForm
  rcases hdot with rfl | rfl
  · have htake : s.takeWhile isBlank = blanks ++ rest'.takeWhile isBlank := by
      rw [h'.eq_append, List.nil_append, List.takeWhile_append_of_pos hwhite]
    rw [htake]
    simp only [List.nil_append, List.length_append, List.length_cons]
    omega
  · have hpoint : s.dropWhile isBlank = '.' :: (blanks ++ rest') := by
      rw [h'.eq_append]
      rfl
    cases hpoint.symm.trans hdrop

theorem finds_behindDivider (s : List Char) :
    Finds IsDivider s ((behindHyphen? s).or (behindDot? s)) :=
  (finds_behindHyphen s).or (fun _ _ _ _ h h' => (h.length_lt_of_isHyphen h').le) (finds_behindDot s)

theorem IsDivider.forall (h : IsDivider sep) : ∀ c ∈ sep, isBlank c = true ∨ c = '-' ∨ c = '.' := by
  intro c hc
  rcases h with ⟨before, after, hbefore, hafter, rfl⟩ | ⟨dot, blanks, hdot, hblanks, rfl⟩
  · rcases List.mem_append.1 hc with hc | hc
    · exact .inl (hbefore c hc)
    · rcases List.mem_cons.1 hc with rfl | hc
      · exact .inr (.inl rfl)
      · exact .inl (hafter c hc)
  · rcases List.mem_append.1 hc with hc | hc
    · rcases hdot with rfl | rfl
      · cases hc
      · exact .inr (.inr (List.mem_singleton.1 hc))
    · exact .inl (hblanks.2 c hc)

theorem IsDivider.ne_nil (h : IsDivider sep) : sep ≠ [] := by
  rintro rfl
  rcases h with ⟨before, after, -, -, hsep⟩ | ⟨dot, blanks, -, ⟨hne, -⟩, hsep⟩
  · exact absurd hsep (by simp)
  · exact hne (List.append_eq_nil_iff.1 hsep.symm).2

/-! ## Digits -/

theorem isDigitForm_of_isDigit (h : c.isDigit = true) : isDigitForm c = true :=
  forall_ascii (p := fun c => c.isDigit = true → isDigitForm c = true) (by decide)
    (toNat_lt_of_isAlphanum (by simp [Char.isAlphanum, h])) h

theorem isDigitForm_of_isBlank (h : isBlank c = true) : isDigitForm c = false := by
  obtain ⟨b, hb, hfirst, hlast⟩ := CodeRange.exists_of_covers h
  have hall : ∀ b ∈ blankRanges, ∀ k < b.last + 1 - b.first,
      isDigitForm (Char.ofNat (b.first + k)) = false := by decide
  have hc := hall b hb (c.toNat - b.first) (by omega)
  rwa [Nat.add_sub_cancel' hfirst, Char.ofNat_toNat] at hc

theorem IsDivider.isDigitForm (h : IsDivider sep) : ∀ c ∈ sep, isDigitForm c = false := by
  intro c hc
  rcases h.forall c hc with hblank | rfl | rfl
  · exact isDigitForm_of_isBlank hblank
  · decide
  · decide

/-! ## Splits -/

/-- A text is a number, a divider and one line. -/
structure IsSplit (s number sep rest : List Char) : Prop where
  eq_append : s = number ++ (sep ++ rest)
  number_ne_nil : number ≠ []
  isDigit : ∀ c ∈ number, c.isDigit = true
  isDivider : IsDivider sep
  isLine : IsLine rest

/-- The split that is read: with a hyphen if there is one with a hyphen, and with no longer
divider in any other. -/
structure IsChosen (s number sep rest : List Char) : Prop extends IsSplit s number sep rest where
  hyphen_first : ∀ number' sep' rest',
    IsSplit s number' sep' rest' → IsHyphen sep' → IsHyphen sep
  longest : ∀ number' sep' rest', IsSplit s number' sep' rest' → sep'.length ≤ sep.length

/-- All digits in front of a text are in the number of each of its splits. -/
theorem isSplit_iff : IsSplit s number sep rest ↔ number = s.takeWhile Char.isDigit ∧
    number ≠ [] ∧ IsCut IsDivider (s.dropWhile Char.isDigit) sep rest := by
  constructor
  · rintro ⟨rfl, hne, hdigit, hdivider, hline⟩
    have hstop : ∀ c ∈ (sep ++ rest).head?, c.isDigit = false := by
      intro c hc
      rw [List.head?_append_of_ne_nil _ hdivider.ne_nil] at hc
      have hform := hdivider.isDigitForm c (List.mem_of_mem_head? hc)
      by_contra hdigit
      rw [isDigitForm_of_isDigit (by simpa using hdigit)] at hform
      cases hform
    rw [takeWhile_append_of_head hdigit hstop, dropWhile_append_of_head hdigit hstop]
    exact ⟨rfl, hne, rfl, hdivider, hline⟩
  · rintro ⟨rfl, hne, hs, hdivider, hline⟩
    have hdigit := List.all_eq_true.1 (List.all_takeWhile (p := Char.isDigit) (l := s))
    exact ⟨by rw [← hs, List.takeWhile_append_dropWhile], hne, hdigit, hdivider, hline⟩

/-- The split with the longest divider is chosen. -/
theorem isChosen_iff : IsChosen s number sep rest ↔ number = s.takeWhile Char.isDigit ∧
    number ≠ [] ∧ IsCut IsDivider (s.dropWhile Char.isDigit) sep rest ∧
    ∀ sep' rest', IsCut IsDivider (s.dropWhile Char.isDigit) sep' rest' →
      sep'.length ≤ sep.length := by
  constructor
  · intro h
    obtain ⟨hnumber, hne, hcut⟩ := isSplit_iff.1 h.toIsSplit
    refine ⟨hnumber, hne, hcut, fun sep' rest' hcut' => ?_⟩
    exact h.longest number sep' rest' (isSplit_iff.2 ⟨hnumber, hne, hcut'⟩)
  · rintro ⟨hnumber, hne, hcut, hlongest⟩
    refine ⟨isSplit_iff.2 ⟨hnumber, hne, hcut⟩, fun number' sep' rest' h hhyphen => ?_,
      fun number' sep' rest' h => hlongest sep' rest' (isSplit_iff.1 h).2.2⟩
    have hcut' := (isSplit_iff.1 h).2.2
    refine hcut.isForm.resolve_right fun hgap => ?_
    have hshort := IsCut.length_lt_of_isHyphen ⟨hcut'.eq_append, hhyphen, hcut'.isLine⟩
      ⟨hcut.eq_append, hgap, hcut.isLine⟩
    exact absurd (hlongest sep' rest' hcut') (by omega)

/-- Where a text can be split, one of its splits is chosen. -/
theorem IsSplit.exists_isChosen (h : IsSplit s number sep rest) :
    ∃ sep rest, IsChosen s number sep rest := by
  obtain ⟨hnumber, hne, hcut⟩ := isSplit_iff.1 h
  obtain ⟨sep, rest, hcut, hlongest⟩ := (finds_behindDivider _).exists_longest hcut
  exact ⟨sep, rest, isChosen_iff.2 ⟨hnumber, hne, hcut, hlongest⟩⟩

/-- Whatever the split, the digits of a text are its number and the digits of the name. -/
theorem IsSplit.filter_isDigitForm (h : IsSplit s number sep rest) :
    s.filter isDigitForm = number ++ (trim rest).filter isDigitForm := by
  have hnumber : number.filter isDigitForm = number :=
    List.filter_eq_self.2 fun c hc => isDigitForm_of_isDigit (h.isDigit c hc)
  have hsep : sep.filter isDigitForm = [] :=
    List.filter_eq_nil_iff.2 fun c hc => by simp [h.isDivider.isDigitForm c hc]
  have hrest : (trim rest).filter isDigitForm = rest.filter isDigitForm :=
    filter_trimWhile (fun _ => isDigitForm_of_isBlank) rest
  rw [h.eq_append, List.filter_append, List.filter_append, hnumber, hsep, List.nil_append, hrest]

namespace Numbered

/-- The number and the name of the chosen split are read. -/
theorem ofText?_eq_some_iff : ofText? s = some n ↔
    ∃ sep rest, IsChosen s n.number sep rest ∧ n.name = trim rest := by
  have hfinds := finds_behindDivider (s.dropWhile Char.isDigit)
  simp only [isChosen_iff]
  constructor
  · intro h
    rw [ofText?] at h
    split_ifs at h with hempty
    obtain ⟨line, hline, rfl⟩ := Option.map_eq_some_iff.1 h
    rw [hline] at hfinds
    cases hfinds with
    | line cut longest read =>
        exact ⟨_, _, ⟨rfl, by simpa using hempty, cut, longest⟩, trim_of_lastLine read⟩
  · rintro ⟨sep, rest, ⟨hnumber, hne, hcut, hlongest⟩, hname⟩
    have hsome : ¬ (s.takeWhile Char.isDigit).isEmpty = true := by
      rwa [← hnumber, List.isEmpty_iff]
    rw [ofText?, if_neg hsome]
    generalize (behindHyphen? _).or (behindDot? _) = found at hfinds ⊢
    cases hfinds with
    | none not_cut => exact absurd hcut (not_cut sep rest)
    | line cut longest read =>
        obtain ⟨-, rfl⟩ :=
          cut.eq_of_length hcut ((hlongest _ _ cut).antisymm (longest sep rest hcut))
        rw [Option.map_some, ← hnumber, trim_of_lastLine read, ← hname]

theorem hasNumber_iff : hasNumber s = true ↔ ∃ number sep rest, IsSplit s number sep rest := by
  rw [hasNumber, Option.isSome_iff_exists]
  constructor
  · rintro ⟨n, hn⟩
    obtain ⟨sep, rest, hchosen, -⟩ := ofText?_eq_some_iff.1 hn
    exact ⟨n.number, sep, rest, hchosen.toIsSplit⟩
  · rintro ⟨number, sep, rest, hsplit⟩
    obtain ⟨sep, rest, hchosen⟩ := hsplit.exists_isChosen
    exact ⟨⟨number, trim rest⟩, ofText?_eq_some_iff.2 ⟨sep, rest, hchosen, rfl⟩⟩

/-- A number is read exactly where a text can be split into a number, a divider and a line. It is all
digits in front of the text, and the name is the line behind the longest divider without the white
space around it; a hyphen goes before a divider without one. No other digits are changed, and a text
that cannot be split is kept. -/
theorem ofText?_splits (s : List Char) :
    (hasNumber s = true ↔ ∃ number sep rest, IsSplit s number sep rest) ∧
      (∀ n, ofText? s = some n ↔
        ∃ sep rest, IsChosen s n.number sep rest ∧ n.name = trim rest) ∧
      (∀ n, ofText? s = some n →
        n.number = s.takeWhile Char.isDigit ∧ stripNumber s = n.name ∧
          s.filter isDigitForm = n.number ++ n.name.filter isDigitForm) ∧
      (hasNumber s = false → ofText? s = none ∧ stripNumber s = s) := by
  refine ⟨hasNumber_iff, fun n => ofText?_eq_some_iff, fun n hn => ?_, fun hnone => ?_⟩
  · obtain ⟨sep, rest, hchosen, hname⟩ := ofText?_eq_some_iff.1 hn
    have hsplit := hchosen.toIsSplit
    refine ⟨(isSplit_iff.1 hsplit).1, by rw [stripNumber, hn]; rfl, ?_⟩
    rw [hname]
    exact hsplit.filter_isDigitForm
  · refine ⟨?_, stripNumber_of_hasNumber_eq_false hnone⟩
    rwa [hasNumber, Option.isSome_eq_false_iff, Option.isNone_iff_eq_none] at hnone

/-- Line breaks may stand around the hyphen and one at the end, but not two behind the name. -/
theorem ofText?_splits_lines :
    let s := "12\n-\n \n3-4 b٣\n".toList
    let t := "12 - b\n\n".toList
    ofText? s = some ⟨"12".toList, "3-4 b٣".toList⟩ ∧
      (∃ sep rest, IsChosen s "12".toList sep rest ∧ "3-4 b٣".toList = trim rest) ∧
      s.filter isDigitForm = "12".toList ++ "34٣".toList ∧
      hasNumber t = false ∧ (¬ ∃ number sep rest, IsSplit t number sep rest) ∧
      stripNumber t = t := by
  intro s t
  have hread : ofText? s = some ⟨"12".toList, "3-4 b٣".toList⟩ := by decide
  have hnone : hasNumber t = false := by decide
  obtain ⟨-, hchosen, hkept, -⟩ := ofText?_splits s
  obtain ⟨hsplit, -, -, hsame⟩ := ofText?_splits t
  refine ⟨hread, (hchosen _).1 hread, (hkept _ hread).2.2, hnone, ?_, (hsame hnone).2⟩
  rw [← hsplit, hnone]
  exact Bool.false_ne_true

end Numbered

end FolderTag.Transform
