import FolderTag.Proofs.Number.Reading
import FolderTag.Proofs.Pattern.AsciiReading
import FolderTag.Proofs.Pattern.Clear
import FolderTag.Proofs.Regex.Copying

/-! # Reading what the restriction writes

A pattern is read in the ASCII reading, and what the restriction makes of it as it is written. Step
by step, where the first reading has a value the second has the same. -/

namespace FolderTag.Pattern

open FolderTag.Regex FolderTag.Regex.Parse

variable {α : Type} {verbose inSet : Bool} {slack : Nat} {ts ts' : List Token} {c : Char}

/-! ## Tokens -/

namespace Mirrors

theorem length_le (h : Mirrors verbose slack inSet ts ts') : ts.length ≤ ts'.length := by
  induction h with
  | nil => exact Nat.le_refl _
  | dangling => exact Nat.le_refl _
  | plain _ _ _ ih => exact Nat.succ_le_succ ih
  | opening _ _ ih => exact Nat.succ_le_succ ih
  | closing _ _ ih =>
      simp only [List.length_append, List.length_cons]
      omega
  | escaped _ _ ih => exact Nat.succ_le_succ ih
  | wrapped _ _ _ ih =>
      simp only [Pattern.wrapped, List.length_append, List.length_cons]
      omega
  | member _ ih => exact Nat.succ_le_succ ih
  | escapedMember _ _ _ ih => exact Nat.succ_le_succ ih
  | listed hc _ ih =>
      obtain ⟨-, rfl⟩ | ⟨-, rfl⟩ := asciiMembers?_eq_some hc <;>
        simp only [List.length_append, List.length_cons, List.length_map, String.reduceToList] <;>
          omega

theorem eq_nil (h : Mirrors verbose slack inSet [] ts') : ts' = [] := by
  cases h
  rfl

/-- The first token is the same, unless it is an escape that is replaced. -/
theorem head?_eq (h : Mirrors verbose slack inSet ts ts') :
    ts'.head? = ts.head? ∨ ∃ e c, ts.head? = some (.escaped e) ∧ ts'.head? = some (.plain c) ∧
      (inSet = false ∧ c = '(' ∨ inSet = true ∧ (e = 'w' ∧ c = 'a' ∨ e = 'd' ∧ c = '0')) := by
  cases h with
  | nil => exact .inl rfl
  | dangling => exact .inl rfl
  | plain => exact .inl rfl
  | opening => exact .inl rfl
  | closing => exact .inl rfl
  | escaped => exact .inl rfl
  | wrapped => exact .inr ⟨_, _, rfl, rfl, .inl ⟨rfl, rfl⟩⟩
  | member => exact .inl rfl
  | escapedMember => exact .inl rfl
  | listed hc =>
      obtain ⟨rfl, rfl⟩ | ⟨rfl, rfl⟩ := asciiMembers?_eq_some hc
      · exact .inr ⟨_, _, rfl, rfl, .inr ⟨rfl, .inl ⟨rfl, rfl⟩⟩⟩
      · exact .inr ⟨_, _, rfl, rfl, .inr ⟨rfl, .inr ⟨rfl, rfl⟩⟩⟩

theorem not_dangling (h : Mirrors verbose slack inSet ts ts')
    (hts : ts.head? ≠ some .dangling) : ts'.head? ≠ some .dangling := by
  obtain he | ⟨e, c, -, he, -⟩ := h.head?_eq
  · rwa [he]
  · simp [he]

/-- A character that begins no replacement stands at the beginning of both or of none. -/
theorem head?_eq_plain_iff (h : Mirrors verbose slack inSet ts ts')
    (hc : c ≠ '(' ∧ c ≠ 'a' ∧ c ≠ '0') :
    ts'.head? = some (.plain c) ↔ ts.head? = some (.plain c) := by
  obtain he | ⟨e, d, he, he', hd⟩ := h.head?_eq
  · rw [he]
  · rw [he, he']
    refine iff_of_false ?_ (by simp)
    rintro hdc
    cases hdc
    obtain ⟨-, rfl⟩ | ⟨-, ⟨-, rfl⟩ | ⟨-, rfl⟩⟩ := hd
    · exact hc.1 rfl
    · exact hc.2.1 rfl
    · exact hc.2.2 rfl

/-- A character outside of sets that opens none is mirrored by itself. -/
theorem of_outside (h : Mirrors verbose slack false (.plain c :: ts) ts') (hc : c ≠ '[') :
    ∃ rest, ts' = .plain c :: rest ∧ isClearBefore verbose ts c = true ∧
      Mirrors verbose slack false ts rest := by
  cases h with
  | plain _ hclear h => exact ⟨_, rfl, hclear, h⟩
  | opening => exact absurd rfl hc
  | closing => exact absurd rfl hc

/-- Behind a character that is no bracket, a set is open as before. -/
theorem plain_cons (h : Mirrors verbose slack inSet (.plain c :: ts) ts')
    (hc : c ≠ '[' ∧ c ≠ ']') :
    ∃ rest, ts' = .plain c :: rest ∧ Mirrors verbose slack inSet ts rest := by
  cases inSet with
  | false =>
      obtain ⟨rest, rfl, -, h⟩ := h.of_outside hc.1
      exact ⟨rest, rfl, h⟩
  | true =>
      cases h with
      | member h =>
          rw [bne_iff_ne.2 hc.2] at h
          exact ⟨_, rfl, h⟩

end Mirrors

/-- A reader of what the restriction writes, beside one of the pattern itself. -/
structure Mirror (verbose : Bool) (slack : Nat) (inSet : Bool) (r r' : Reader) : Prop where
  rest : Mirrors verbose slack inSet r.rest r'.rest
  flags : r'.flags = r.flags
  widths : r'.widths = r.widths
  names : r'.names = r.names
  lookbehindLimit : r'.lookbehindLimit = r.lookbehindLimit
  conditions : r'.conditions.map Prod.fst = r.conditions.map Prod.fst
  quiet : verbose = false → r.flags.verbose = false

variable {r r' s s' : Reader}

theorem Mirror.behind {inSet' : Bool} {us us' : List Token} (h : Mirror verbose slack inSet r r')
    (hts : Mirrors verbose slack inSet' ts ts') :
    Mirror verbose slack inSet' (r.behind us ts) (r'.behind us' ts') :=
  ⟨hts, h.flags, h.widths, h.names, h.lookbehindLimit, h.conditions, h.quiet⟩

/-! ## Single tokens -/

/-- A token is taken outside of sets: where the step goes on, it is a character that opens no
set. -/
theorem copies_takeBind {I : Reader → Reader → Prop} {O : α → Reader → Reader → Prop}
    {g h : Option Token → Parse α} (hI : ∀ r r', I r r' → Mirror verbose slack false r r')
    (hplain : ∀ c, c ≠ '[' → Copies
      (fun s s' => Mirror verbose slack false s s' ∧ ∃ r r', I r r' ∧ r.rest = .plain c :: s.rest)
      O (g (some (.plain c))) (h (some (.plain c))))
    (hbracket : Refuses (g (some (.plain '[')))) (hescaped : ∀ c, Refuses (g (some (.escaped c))))
    (hdangling : Refuses (g (some .dangling))) (hnone : Refuses (g none)) :
    Copies I O (take >>= g) (take >>= h) := by
  intro r r' hr a s hrun
  rw [StateT.run_bind] at hrun
  obtain ⟨⟨o, t⟩, htake, hgo⟩ := bind_eq_ok_iff.1 hrun
  obtain ⟨rfl, -, rfl⟩ | ⟨token, ts, rfl, hrest, hts, rfl⟩ := take_eq_ok htake
  · exact absurd hgo (hnone _ _ _)
  · cases token with
    | dangling => exact absurd hgo (hdangling _ _ _)
    | escaped c => exact absurd hgo (hescaped c _ _ _)
    | plain c =>
        by_cases hc : c = '['
        · subst hc
          exact absurd hgo (hbracket _ _ _)
        · have hmirror := hI r r' hr
          have hmirrors := hmirror.rest
          rw [hrest] at hmirrors
          obtain ⟨rest', hrest', -, hmirrors⟩ := hmirrors.of_outside hc
          rw [run_bind_ok (run_take hrest' (hmirrors.not_dangling hts))]
          exact hplain c hc _ _ ⟨hmirror.behind hmirrors, r, r', hr, hrest⟩ a s hgo

/-- Whether a character neither is a bracket nor begins what replaces an escape. -/
def isOrdinary (c : Char) : Bool := !"[](a0".toList.contains c

theorem ne_of_isOrdinary (hc : isOrdinary c = true) :
    (c ≠ '[' ∧ c ≠ ']') ∧ c ≠ '(' ∧ c ≠ 'a' ∧ c ≠ '0' := by
  simpa [isOrdinary, and_assoc] using hc

theorem keeps_nextIs (hc : isOrdinary c = true) :
    Keeps (Mirror verbose slack inSet) (nextIs c) (nextIs c) := by
  refine .getBind fun r r' h => ?_
  have hsame : (r'.rest.head? == some (.plain c)) = (r.rest.head? == some (.plain c)) := by
    rw [Bool.eq_iff_iff, beq_iff_eq, beq_iff_eq]
    exact h.rest.head?_eq_plain_iff (ne_of_isOrdinary hc).2
  rw [hsame]
  exact .pure fun _ _ => id

/-- Behind an accepted character there is what was behind it. -/
theorem copies_accept {I : Reader → Reader → Prop} (hc : isOrdinary c = true)
    (hI : ∀ r r', I r r' → Mirror verbose slack inSet r r') :
    Copies I (fun taken s s' => Mirror verbose slack inSet s s' ∧ ∃ r r', I r r' ∧
      if taken then r.rest = .plain c :: s.rest else s = r ∧ r.rest.head? ≠ some (.plain c))
      (accept c) (accept c) := by
  intro r r' hr taken s hrun
  have hmirror := hI r r' hr
  obtain ⟨hbrackets, hbegins⟩ := ne_of_isOrdinary hc
  obtain ⟨rfl, ts, hrest, hts, rfl⟩ | ⟨rfl, hrest, rfl⟩ := accept_eq_ok hrun
  · have hmirrors := hmirror.rest
    rw [hrest] at hmirrors
    obtain ⟨ts', hrest', hmirrors⟩ := hmirrors.plain_cons hbrackets
    exact ⟨_, run_accept hrest' (hmirrors.not_dangling hts), hmirror.behind hmirrors, r, r', hr,
      hrest⟩
  · have hrest' : r'.rest.head? ≠ some (.plain c) := fun he =>
      hrest ((hmirror.rest.head?_eq_plain_iff hbegins).1 he)
    exact ⟨r', run_accept_of_ne hrest', hmirror, s, r', hr, rfl, hrest⟩

theorem keeps_accept (hc : isOrdinary c = true) :
    Keeps (Mirror verbose slack inSet) (accept c) (accept c) :=
  (copies_accept hc fun _ _ => id).strengthen fun _ _ _ => And.left

/-! ## Digits -/

section Digits

variable {p : Char → Bool} {n : Nat} {ds : List Char}

/-- The same digits are taken, unless the next token is an escape whose replacement begins with a
digit. -/
theorem run_takeUpTo_mirrored (hp : p '[' = false ∧ p ']' = false)
    (h : Mirror verbose slack inSet r r') (hrun : (takeUpTo p n).run r = .ok (ds, s))
    (hend : n ≤ ds.length ∨ inSet = false ∧ p '(' = false ∨
      inSet = true ∧ p 'a' = false ∧ s.rest.head? ≠ some (.escaped 'd')) :
    ∃ s', (takeUpTo p n).run r' = .ok (ds, s') ∧ Mirror verbose slack inSet s s' := by
  induction n generalizing r r' ds with
  | zero =>
      cases hrun
      exact ⟨r', rfl, h⟩
  | succ n ih =>
      obtain ⟨rfl, rfl, hstop⟩ | ⟨c, ts, ds', rfl, hc, hrest, hts, hmore⟩ := takeUpTo_eq_ok hrun
      · refine ⟨r', run_takeUpTo_stop fun c hc => ?_, h⟩
        obtain he | ⟨e, d, he, he', hd⟩ := h.rest.head?_eq
        · exact hstop c (he ▸ hc)
        · cases he'.symm.trans hc
          replace hend := hend.resolve_left (by simp)
          obtain ⟨rfl, rfl⟩ | ⟨rfl, ⟨rfl, rfl⟩ | ⟨rfl, rfl⟩⟩ := hd
          · simpa using hend
          · simpa using (hend.resolve_left nofun).2.1
          · exact absurd he (hend.resolve_left nofun).2.2
      · have hbrackets : c ≠ '[' ∧ c ≠ ']' := by
          refine ⟨?_, ?_⟩
          · rintro rfl
            simp [hp] at hc
          · rintro rfl
            simp [hp] at hc
        have hmirrors := h.rest
        rw [hrest] at hmirrors
        obtain ⟨ts', hrest', hmirrors⟩ := hmirrors.plain_cons hbrackets
        obtain ⟨s', hmore', hs⟩ := ih (h.behind hmirrors) hmore
          (hend.imp_left Nat.le_of_succ_le_succ)
        exact ⟨s', run_takeUpTo_cons hc hrest' (hmirrors.not_dangling hts) hmore', hs⟩

/-- A step that needs all of the digits it may take. -/
theorem copies_takeUpToBind {O : α → Reader → Reader → Prop} {g h : List Char → Parse α}
    (hp : p '[' = false ∧ p ']' = false) (hshort : ∀ ds, ds.length < n → Refuses (g ds))
    (hfull : ∀ ds, Copies (Mirror verbose slack inSet) O (g ds) (h ds)) :
    Copies (Mirror verbose slack inSet) O (takeUpTo p n >>= g) (takeUpTo p n >>= h) := by
  intro r r' hr a s hrun
  rw [StateT.run_bind] at hrun
  obtain ⟨⟨ds, t⟩, htake, hgo⟩ := bind_eq_ok_iff.1 hrun
  by_cases hlength : ds.length < n
  · exact absurd hgo (hshort ds hlength _ _ _)
  · obtain ⟨t', htake', ht⟩ :=
      run_takeUpTo_mirrored hp hr htake (.inl (Nat.le_of_not_lt hlength))
    rw [run_bind_ok htake']
    exact hfull ds t t' ht a s hgo

theorem keeps_takeUpTo (hp : p '[' = false ∧ p ']' = false ∧ p '(' = false) (n : Nat) :
    Keeps (Mirror verbose slack false) (takeUpTo p n) (takeUpTo p n) :=
  fun _ _ h _ _ hrun =>
    run_takeUpTo_mirrored ⟨hp.1, hp.2.1⟩ h hrun (.inr (.inl ⟨rfl, hp.2.2⟩))

theorem keeps_takeWhile (hp : p '[' = false ∧ p ']' = false ∧ p '(' = false) :
    Keeps (Mirror verbose slack false) (takeWhile p) (takeWhile p) := by
  intro r r' h ds s hrun
  obtain ⟨s', hrun', hs⟩ := keeps_takeUpTo hp r.rest.length r r' h ds s hrun
  refine ⟨s', run_takeUpTo_of_le hrun' h.rest.length_le ?_, hs⟩
  have hlength := length_takeUpTo hrun
  cases hleft : s.rest with
  | nil =>
      refine .inr ?_
      have hmirrors := hs.rest
      rw [hleft] at hmirrors
      exact hmirrors.eq_nil
  | cons t ts =>
      rw [hleft, List.length_cons] at hlength
      exact .inl (by omega)

end Digits

/-! ## Escapes -/

theorem refuses_nameEscape : Refuses nameEscape :=
  refuses_bind fun _ => refuses_ite (fun _ => refuses_fail _ _) fun _ =>
    refuses_bind fun _ => refuses_fail _ _

theorem keeps_hexEscape (letter : Char) (count : Nat) :
    Keeps (Mirror verbose slack inSet) (hexEscape letter count) (hexEscape letter count) := by
  refine copies_takeUpToBind ⟨by decide, by decide⟩ (fun ds hlength => ?_) fun ds => ?_
  · rw [if_pos hlength]
    exact refuses_fail _ _
  · exact .ite (fun _ => .fail _ _ _) fun _ => .ite (fun _ => .fail _ _ _) fun _ =>
      .pure fun _ _ => id

theorem keeps_characterEscape (c : Char) :
    Keeps (Mirror verbose slack inSet) (characterEscape c) (characterEscape c) :=
  .ite (fun _ => keeps_hexEscape _ _) fun _ => .ite (fun _ => keeps_hexEscape _ _) fun _ =>
    .ite (fun _ => keeps_hexEscape _ _) fun _ => .ite (fun _ => .refused refuses_nameEscape)
      fun _ => .ite (fun _ => .fail _ _ _) fun _ => .pure fun _ _ => id

/-- Digits that are taken do not end before a digit class that would be swallowed. -/
theorem head?_takeUpTo_ne {n : Nat} {ds : List Char}
    (hrun : (takeUpTo isOctal n).run r = .ok (ds, s))
    (h : swallowsDigits n r.rest = false) :
    n ≤ ds.length ∨ s.rest.head? ≠ some (.escaped 'd') := by
  induction n generalizing r ds with
  | zero => exact .inl (Nat.zero_le _)
  | succ n ih =>
      obtain ⟨rfl, rfl, -⟩ | ⟨c, ts, ds', rfl, hc, hrest, -, hmore⟩ := takeUpTo_eq_ok hrun
      · refine .inr fun hhead => ?_
        obtain ⟨ts, hrest⟩ := List.head?_eq_some_iff.1 hhead
        simp [hrest, swallowsDigits] at h
      · rw [hrest, swallowsDigits, hc, Bool.true_and] at h
        exact (ih hmore h).imp_left Nat.succ_le_succ

theorem copies_setEscape (c : Char) : Copies
    (fun r r' => Mirror verbose slack true r r' ∧ (isOctal c && swallowsDigits 2 r.rest) = false)
    (fun _ => Mirror verbose slack true) (setEscape c) (setEscape c) := by
  unfold setEscape
  cases controlEscape? c with
  | some n => exact .pure fun _ _ => And.left
  | none =>
      cases classEscape? c with
      | some item => exact .pure fun _ _ => And.left
      | none =>
          refine .ite (fun hc => .bind (O := fun _ => Mirror verbose slack true) ?_ fun ds => ?_)
            fun _ => .bind ((keeps_characterEscape c).weaken fun _ _ => And.left) fun n =>
              .pure fun _ _ => id
          · rintro r r' ⟨h, hdigits⟩ ds s hrun
            rw [hc, Bool.true_and] at hdigits
            exact run_takeUpTo_mirrored ⟨by decide, by decide⟩ h hrun
              ((head?_takeUpTo_ne hrun hdigits).imp_right fun hhead =>
                .inr ⟨rfl, by decide, hhead⟩)
          · exact .ite (fun _ => .fail _ _ _) fun _ => .pure fun _ _ => id

/-! ## Groups that have been opened -/

theorem keeps_groupCount :
    Keeps (Mirror verbose slack inSet) groupCount groupCount := by
  refine .getBind fun r r' h => ?_
  rw [h.widths]
  exact .pure fun _ _ => id

theorem keeps_isClosed (g : Nat) :
    Keeps (Mirror verbose slack inSet) (isClosed g) (isClosed g) := by
  refine .getBind fun r r' h => ?_
  rw [h.widths]
  exact .pure fun _ _ => id

theorem keeps_checkLookbehind (g : Nat) :
    Keeps (Mirror verbose slack inSet) (checkLookbehind g) (checkLookbehind g) := by
  refine .getBind fun r r' h => ?_
  rw [h.lookbehindLimit]
  cases r.lookbehindLimit with
  | none => exact .pure fun _ _ => id
  | some limit =>
      exact (keeps_isClosed g).bind fun _ => .ite (fun _ => .fail _ _ _) fun _ =>
        .ite (fun _ => .fail _ _ _) fun _ => .pure fun _ _ => id

theorem keeps_groupReference (g size : Nat) :
    Keeps (Mirror verbose slack inSet) (groupReference g size) (groupReference g size) :=
  keeps_groupCount.bind fun _ => .ite
    (fun _ => (keeps_isClosed g).bind fun _ => .ite (fun _ => .fail _ _ _) fun _ =>
      (keeps_checkLookbehind g).bind fun _ => .pure fun _ _ => id)
    fun _ => .fail _ _ _

theorem keeps_openGroup (name : Option String) :
    Keeps (Mirror verbose slack inSet) (openGroup name) (openGroup name) := by
  refine keeps_groupCount.bind fun g => ?_
  cases name with
  | none =>
      exact .bind (.update fun r r' h => { h with widths := by rw [h.widths] })
        fun _ => .pure fun _ _ => id
  | some n =>
      refine .getBind fun r r' h => ?_
      rw [h.names]
      cases r.names.lookup n with
      | none =>
          exact .bind (.update fun r r' h =>
            { h with widths := by rw [h.widths], names := by rw [h.names] })
              fun _ => .pure fun _ _ => id
      | some previous => exact .refused (refuses_fail _ _)

theorem keeps_closeGroup (g : Nat) (w : Width) :
    Keeps (Mirror verbose slack inSet) (closeGroup g w) (closeGroup g w) :=
  .update fun r r' h => { h with widths := by rw [h.widths] }

/-! ## Escapes outside of sets -/

theorem keeps_digitEscape (c : Char) :
    Keeps (Mirror verbose slack false) (digitEscape c) (digitEscape c) := by
  refine (keeps_takeUpTo (by decide) 1).bind fun ds => ?_
  match ds with
  | [] | _ :: _ :: _ => exact keeps_groupReference _ _
  | [d] =>
      refine .ite (fun _ => (keeps_takeUpTo (by decide) 1).bind fun es => ?_) fun _ =>
        keeps_groupReference (numberIn 10 [c, d]) 3
      match es with
      | [] | _ :: _ :: _ => exact keeps_groupReference _ _
      | [e] => exact .ite (fun _ => .fail _ _ _) fun _ => .pure fun _ _ => id

theorem keeps_itemEscape (c : Char) :
    Keeps (Mirror verbose slack false) (itemEscape c) (itemEscape c) := by
  unfold itemEscape
  cases anchorEscape? c with
  | some a => exact .pure fun _ _ => id
  | none =>
      cases classEscape? c with
      | some item => exact .pure fun _ _ => id
      | none =>
          cases controlEscape? c with
          | some n => exact .pure fun _ _ => id
          | none =>
              exact .ite
                (fun _ => (keeps_takeUpTo (by decide) 2).bind fun _ => .pure fun _ _ => id)
                fun _ => .ite (fun _ => keeps_digitEscape c) fun _ =>
                  (keeps_characterEscape c).bind fun _ => .pure fun _ _ => id

/-! ## Repetitions -/

theorem keeps_digitBound {I : Reader → Reader → Prop} (ds : List Char) :
    Keeps I (digitBound ds) (digitBound ds) :=
  .ite (fun _ => .pure fun _ _ => id) fun _ => .ite (fun _ => .throw _ _) fun _ =>
    .pure fun _ _ => id

theorem keeps_digitBounds {I : Reader → Reader → Prop} (start start' : Nat) (low high : List Char) :
    Keeps I (digitBounds start low high) (digitBounds start' low high) := by
  refine (keeps_digitBound low).bind fun low => (keeps_digitBound high).bind fun high => ?_
  cases high with
  | none => exact .pure fun _ _ => id
  | some h => exact .ite (fun _ => .throw _ _) fun _ => .pure fun _ _ => id

theorem keeps_braceBounds : Keeps (Mirror verbose slack false) braceBounds braceBounds := by
  refine (keeps_nextIs (by decide)).bind fun _ => .ite (fun _ => .pure fun _ _ => id) fun _ =>
    .getBind fun before before' hbefore => (keeps_takeWhile (by decide)).bind fun low =>
      (keeps_accept (by decide)).bind fun _ => ?_
  -- The upper bound is read only behind a comma; what follows it is the same.
  have hclose (high : List Char) : Keeps (Mirror verbose slack false)
      (accept '\x7d' >>= fun closed =>
        if closed then digitBounds before.position low high
        else set before >>= fun _ => pure Bounds.literalBrace)
      (accept '\x7d' >>= fun closed =>
        if closed then digitBounds before'.position low high
        else set before' >>= fun _ => pure Bounds.literalBrace) :=
    (keeps_accept (by decide)).bind fun _ => .ite (fun _ => keeps_digitBounds _ _ _ _) fun _ =>
      .bind (.set hbefore) fun _ => .pure fun _ _ => id
  exact .ite (fun _ => (keeps_takeWhile (by decide)).bind hclose) fun _ =>
    (Copies.pure fun _ _ => id).bind hclose

theorem keeps_boundsFor (c : Char) :
    Keeps (Mirror verbose slack false) (boundsFor c) (boundsFor c) :=
  .ite (fun _ => .pure fun _ _ => id) fun _ => .ite (fun _ => .pure fun _ _ => id) fun _ =>
    .ite (fun _ => .pure fun _ _ => id) fun _ => keeps_braceBounds

theorem keeps_repeatLast (mark mark' low : Nat) (high : Option Nat) (done : List Node) :
    Keeps (Mirror verbose slack false) (repeatLast mark low high done)
      (repeatLast mark' low high done) := by
  cases done with
  | nil => exact .throw _ _
  | cons n done =>
      cases hrepeatable : n.isRepeatable with
      | true =>
          rw [repeatLast_cons hrepeatable, repeatLast_cons hrepeatable]
          exact (keeps_accept (by decide)).bind fun _ =>
            .ite (fun _ => .pure fun _ _ => id) fun _ =>
              (keeps_accept (by decide)).bind fun _ =>
                .ite (fun _ => .pure fun _ _ => id) fun _ => .pure fun _ _ => id
      | false =>
          cases n with
          | anchor a => exact .throw _ _
          | rep greed low high body => exact .throw _ _
          | _ => cases hrepeatable

/-! ## Names -/

/-- Whether a name holds a character that neither a group name nor a number has. -/
def isSpoiled (name : List Char) : Bool := name.contains '\\' || name.contains '['

theorem isSpoiled_of_mem {name : List Char} (h : c ∈ name) (hc : c = '\\' ∨ c = '[') :
    isSpoiled name = true := by
  obtain rfl | rfl := hc
  · simp [isSpoiled, h]
  · simp [isSpoiled, h]

theorem exists_mem_of_isSpoiled {name : List Char} (h : isSpoiled name = true) :
    ∃ c ∈ name, c = '\\' ∨ c = '[' := by
  rw [isSpoiled, Bool.or_eq_true, List.contains_iff_mem, List.contains_iff_mem] at h
  obtain h | h := h
  · exact ⟨_, h, .inl rfl⟩
  · exact ⟨_, h, .inr rfl⟩

theorem isIdentifier_of_isSpoiled {name : List Char} (h : isSpoiled name = true) :
    Text.isIdentifier name = false := by
  obtain ⟨c, hc, hspoils⟩ := exists_mem_of_isSpoiled h
  have hpart : Text.isIdentifierPart c = false ∧ Text.isIdentifierStart c = false := by
    obtain rfl | rfl := hspoils <;> decide
  cases name with
  | nil => cases hc
  | cons d name =>
      rw [Text.isIdentifier, Bool.and_eq_false_iff, List.all_eq_false]
      obtain rfl | hc := List.mem_cons.1 hc
      · exact .inl hpart.2
      · exact .inr ⟨c, hc, by simp [hpart.1]⟩

theorem readInt?_of_isSpoiled {name : List Char} (h : isSpoiled name = true) :
    Number.readInt? name = none := by
  obtain ⟨c, hc, hspoils⟩ := exists_mem_of_isSpoiled h
  have hpart : Number.isNumberBlank c = false ∧ Number.isNumberPart c = false := by
    obtain rfl | rfl := hspoils <;> decide
  cases hread : Number.readInt? name with
  | none => rfl
  | some n => simpa [hpart] using Number.isNumberPart_of_readInt? hread c hc

/-- The same name is read, unless it is spoiled. -/
theorem run_nameLoop_mirrored {terminator : Char} {what : String} {n m : Nat}
    {before name : List Char} (hterminator : terminator ≠ '[') (h : Mirror verbose slack false r r')
    (hrun : (nameLoop terminator what n before).run r = .ok (name, s)) (hnm : n ≤ m)
    (hname : isSpoiled name = false) :
    ∃ s', (nameLoop terminator what m before).run r' = .ok (name, s') ∧
      Mirror verbose slack false s s' := by
  induction n generalizing m r r' before with
  | zero => cases hrun
  | succ n ih =>
      obtain ⟨m, rfl⟩ := Nat.exists_eq_add_of_le' (Nat.one_le_of_lt hnm)
      obtain ⟨t, ts, hrest, hts, hrun⟩ := nameLoop_eq_ok hrun
      have hspoils {c : Char} (hc : c ∈ t.text) (hspoils : c = '\\' ∨ c = '[')
          (hmore : t.isPlain terminator = false) : False := by
        rw [hmore, if_neg Bool.false_ne_true] at hrun
        have hmem := mem_nameLoop hrun c (List.mem_append_right _ hc)
        simp [isSpoiled_of_mem hmem hspoils] at hname
      have hmirrors := h.rest
      rw [hrest] at hmirrors
      cases t with
      | dangling => exact (hspoils (by simp [Token.text]) (.inl rfl) rfl).elim
      | escaped c => exact (hspoils (by simp [Token.text]) (.inl rfl) rfl).elim
      | plain c =>
          have hc : c ≠ '[' := by
            rintro rfl
            exact hspoils (by simp [Token.text]) (.inr rfl)
              (by simpa [Token.isPlain] using hterminator.symm)
          obtain ⟨rest', hrest', -, hbehind⟩ := hmirrors.of_outside hc
          have hts' := hbehind.not_dangling hts
          split at hrun
          · rename_i hend
            obtain ⟨hbefore, rfl, rfl⟩ := hrun
            cases eq_of_beq hend
            exact ⟨_, run_nameLoop_end hrest' hts' hbefore, h.behind hbehind⟩
          · rename_i hmore
            rw [run_nameLoop_cons hrest' hts' (eq_false_of_ne_true hmore)]
            exact ih (h.behind hbehind) hrun (Nat.le_of_succ_le_succ hnm)

/-- A step that goes on only with a name that is not spoiled. -/
theorem copies_takeNameBind {O : α → Reader → Reader → Prop} {terminator : Char} {what : String}
    {g h : List Char → Parse α} (hterminator : terminator ≠ '[')
    (hspoiled : ∀ name, isSpoiled name = true → Refuses (g name))
    (hname : ∀ name, Copies (Mirror verbose slack false) O (g name) (h name)) :
    Copies (Mirror verbose slack false) O (takeName terminator what >>= g)
      (takeName terminator what >>= h) := by
  intro r r' hr a s hrun
  rw [StateT.run_bind] at hrun
  obtain ⟨⟨name, t⟩, htake, hgo⟩ := bind_eq_ok_iff.1 hrun
  cases hspoils : isSpoiled name with
  | true => exact absurd hgo (hspoiled name hspoils _ _ _)
  | false =>
      obtain ⟨t', htake', ht⟩ := run_nameLoop_mirrored hterminator hr htake
        (Nat.succ_le_succ hr.rest.length_le) hspoils
      have hname' : (takeName terminator what).run r' = .ok (name, t') := htake'
      rw [run_bind_ok hname']
      exact hname name t t' ht a s hgo

/-! ## Inline flags -/

theorem refuses_refuseFlag (otherwise : Cause) (t : Token) :
    Refuses (refuseFlag otherwise t : Parse α) := by
  cases t with
  | plain c => exact refuses_fail _ _
  | escaped c => exact refuses_fail _ _
  | dangling => exact refuses_fail _ _

/-- Whether a letter is the one of the verbose mode. -/
def isVerboseLetter : FlagLetter → Bool
  | .switch f => f.verbose
  | .locale => false

theorem isVerboseLetter_of_ofChar? {letter : FlagLetter} (h : FlagLetter.ofChar? c = some letter) :
    isVerboseLetter letter = (c == 'x') := by
  unfold FlagLetter.ofChar? at h
  split at h <;> cases h <;> rfl

/-- Readers behind which no letter of the verbose mode follows, unless the mode may be on. -/
def BeforeLetters (verbose : Bool) (slack : Nat) (r r' : Reader) : Prop :=
  Mirror verbose slack false r r' ∧ (verbose = false → namesVerbose r.rest = false)

theorem namesVerbose_cons {letter : FlagLetter} (hletter : FlagLetter.ofChar? c = some letter)
    (h : namesVerbose (.plain c :: ts) = false) :
    isVerboseLetter letter = false ∧ namesVerbose ts = false := by
  rw [namesVerbose, hletter] at h
  rw [isVerboseLetter_of_ofChar? hletter]
  simpa using h

theorem copies_addFlag {I : Reader → Reader → Prop} {on : Flags} {letter : FlagLetter}
    (hon : verbose = false → on.verbose = false)
    (hletter : verbose = false → isVerboseLetter letter = false) :
    Copies I (fun sum s s' => I s s' ∧ (verbose = false → sum.verbose = false))
      (addFlag on letter) (addFlag on letter) := by
  cases letter with
  | locale => exact .refused (refuses_fail _ _)
  | switch f =>
      refine .ite (fun _ => .fail _ _ _) fun _ => .pure fun r r' hr => ⟨hr, fun hv => ?_⟩
      have hf : f.verbose = false := hletter hv
      simp [Flags.union, hon hv, hf]

theorem copies_flagsOn {n m : Nat} (hnm : n ≤ m) {on : Flags} {letter : FlagLetter}
    (hon : verbose = false → on.verbose = false)
    (hletter : verbose = false → isVerboseLetter letter = false) :
    Copies (BeforeLetters verbose slack)
      (fun a s s' => Mirror verbose slack false s s' ∧ (verbose = false → a.1.verbose = false))
      (flagsOn n on letter) (flagsOn m on letter) := by
  induction n generalizing m on letter with
  | zero => exact .throw _ _
  | succ n ih =>
      obtain ⟨m, rfl⟩ := Nat.exists_eq_add_of_le' (Nat.one_le_of_lt hnm)
      refine (copies_addFlag hon hletter).bind fun sum => copies_takeBind (fun _ _ h => h.1.1)
        (fun c hc => ?_)
        (refuses_ite (fun h => absurd h (by decide)) fun _ => refuses_refuseFlag _ _)
        (fun _ => refuses_refuseFlag _ _) (refuses_refuseFlag _ _) (refuses_fail _ _)
      refine .ite (fun _ => .pure ?_) fun _ => ?_
      · rintro s s' ⟨hs, r, r', hr, -⟩
        exact ⟨hs, hr.2⟩
      · cases hnext : FlagLetter.ofChar? c with
        | none => exact .refused (refuses_refuseFlag _ _)
        | some next =>
            intro s s' hs
            obtain ⟨hmirror, r, r', ⟨⟨-, hnames⟩, hsum⟩, hrest⟩ := hs
            rw [hrest] at hnames
            exact ih (Nat.le_of_succ_le_succ hnm) hsum
              (fun hv => (namesVerbose_cons hnext (hnames hv)).1) s s'
              ⟨hmirror, fun hv => (namesVerbose_cons hnext (hnames hv)).2⟩

theorem keeps_flagsOff {n m : Nat} (hnm : n ≤ m) (off : Flags) (letter : FlagLetter) :
    Keeps (Mirror verbose slack false) (flagsOff n off letter) (flagsOff m off letter) := by
  induction n generalizing m off letter with
  | zero => exact .throw _ _
  | succ n ih =>
      obtain ⟨m, rfl⟩ := Nat.exists_eq_add_of_le' (Nat.one_le_of_lt hnm)
      cases letter with
      | locale => exact .refused (refuses_fail _ _)
      | switch f =>
          refine .ite (fun _ => .fail _ _ _) fun _ => copies_takeBind (fun _ _ => id)
            (fun c hc => ?_)
            (refuses_ite (fun h => absurd h (by decide)) fun _ => refuses_refuseFlag _ _)
            (fun _ => refuses_refuseFlag _ _) (refuses_refuseFlag _ _) (refuses_fail _ _)
          refine .ite (fun _ => .pure fun _ _ => And.left) fun _ => ?_
          cases FlagLetter.ofChar? c with
          | none => exact .refused (refuses_refuseFlag _ _)
          | some next => exact (ih (Nat.le_of_succ_le_succ hnm) _ next).weaken fun _ _ => And.left

theorem keeps_flagsBehindMinus {n m : Nat} (hnm : n ≤ m) :
    Keeps (Mirror verbose slack false) (flagsBehindMinus n) (flagsBehindMinus m) := by
  refine copies_takeBind (fun _ _ => id) (fun c hc => ?_) (refuses_refuseFlag _ _)
    (fun _ => refuses_refuseFlag _ _) (refuses_refuseFlag _ _) (refuses_fail _ _)
  dsimp only
  cases FlagLetter.ofChar? c with
  | none => exact .refused (refuses_refuseFlag _ _)
  | some letter => exact (keeps_flagsOff hnm _ letter).weaken fun _ _ => And.left

/-- The flags of an inline group switch the verbose mode on only where it may be. -/
def KeepsQuiet (verbose : Bool) (flags? : Option (Flags × Flags)) : Prop :=
  verbose = false → ∀ on off, flags? = some (on, off) → on.verbose = false

theorem copies_inlineFlagsBehind {n m : Nat} (hnm : n ≤ m) {on : Flags}
    (hon : verbose = false → on.verbose = false) (mark : Char) :
    Copies (Mirror verbose slack false)
      (fun a s s' => Mirror verbose slack false s s' ∧ KeepsQuiet verbose a)
      (inlineFlagsBehind n on mark) (inlineFlagsBehind m on mark) := by
  have hbehind (off : Flags) : Copies (Mirror verbose slack false)
      (fun a s s' => Mirror verbose slack false s s' ∧ KeepsQuiet verbose a)
      (if off.template then fail .globalFlagOff 1
        else if on.meets off then fail .flagOnAndOff 1
        else pure (some (on, off)))
      (if off.template then fail .globalFlagOff 1
        else if on.meets off then fail .flagOnAndOff 1
        else pure (some (on, off))) := by
    refine .ite (fun _ => .fail _ _ _) fun _ => .ite (fun _ => .fail _ _ _) fun _ =>
      .pure fun r r' hr => ⟨hr, fun hv on' off' h => ?_⟩
    cases h
    exact hon hv
  refine .ite (fun _ => .bind (O := fun _ => Mirror verbose slack false) (.update fun r r' h => ?_)
    fun _ => .pure fun _ _ h => ⟨h, fun _ _ _ => nofun⟩) fun _ =>
      .ite (fun _ => .fail _ _ _) fun _ => ?_
  · exact { h with
      flags := by rw [h.flags]
      quiet := fun hv => by simp [Flags.union, h.quiet hv, hon hv] }
  · exact .ite (fun _ => (keeps_flagsBehindMinus hnm).bind hbehind) fun _ =>
      (Copies.pure fun _ _ => id).bind hbehind

theorem copies_inlineFlags (c : Char) :
    Copies (fun r r' => Mirror verbose slack false r r' ∧
        (verbose = false → namesVerbose (.plain c :: r.rest) = false))
      (fun a s s' => Mirror verbose slack false s s' ∧ KeepsQuiet verbose a)
      (inlineFlags c) (inlineFlags c) := by
  refine .getBind fun r r' hr => ?_
  have hnm : r.rest.length + 1 ≤ r'.rest.length + 1 := Nat.succ_le_succ hr.1.rest.length_le
  cases hletter : FlagLetter.ofChar? c with
  | none => exact (copies_inlineFlagsBehind hnm (fun _ => rfl) '-').weaken fun _ _ => And.left
  | some letter =>
      rintro s s' ⟨hs, hnames⟩
      refine Copies.bind (copies_flagsOn hnm (fun _ => rfl) fun hv =>
        (namesVerbose_cons hletter (hnames hv)).1) (fun a => ?_) s s'
          ⟨hs, fun hv => (namesVerbose_cons hletter (hnames hv)).2⟩
      rintro t t' ⟨ht, hon⟩
      exact copies_inlineFlagsBehind hnm hon a.2 t t' ht

/-! ## Openings of groups -/

theorem keeps_namedGroup (name : List Char) :
    Keeps (Mirror verbose slack inSet) (namedGroup name) (namedGroup name) := by
  refine .getBind fun r r' h => ?_
  rw [h.names]
  cases r.names.lookup (String.ofList name) with
  | none => exact .refused (refuses_fail _ _)
  | some g => exact .pure fun _ _ => id

/-- A group that a condition asks for is known or not, wherever it has been asked for. -/
theorem isSome_lookup_eq {conditions conditions' : List (Nat × Nat)} (g : Nat)
    (h : conditions'.map Prod.fst = conditions.map Prod.fst) :
    (conditions'.lookup g).isSome = (conditions.lookup g).isSome := by
  have hmem (l : List (Nat × Nat)) : (l.lookup g).isSome = (l.map Prod.fst).contains g := by
    rw [Bool.eq_iff_iff, List.lookup_isSome_iff, List.contains_iff_mem, List.mem_map]
    simp only [beq_iff_eq, eq_comm (a := g)]
  rw [hmem, hmem, h]

theorem keeps_numberedGroup (name : List Char) :
    Keeps (Mirror verbose slack inSet) (numberedGroup name) (numberedGroup name) := by
  unfold numberedGroup
  cases Number.readInt? name with
  | none => exact .refused (refuses_fail _ _)
  | some n =>
      match n with
      | .negSucc _ | .ofNat 0 => exact .refused (refuses_fail _ _)
      | .ofNat (g + 1) =>
          refine .ite (fun _ => .fail _ _ _) fun _ =>
            .bind (O := fun _ => Mirror verbose slack inSet) (.update fun r r' h => ?_)
              fun _ => .pure fun _ _ => id
          rw [isSome_lookup_eq (g + 1) h.conditions]
          split
          · exact h
          · exact { h with conditions := by simp [h.conditions] }

theorem keeps_checkGroupName (name : List Char) (offset : Nat) :
    Keeps (Mirror verbose slack inSet) (checkGroupName name offset)
      (checkGroupName name offset) :=
  .ite (fun _ => .fail _ _ _) fun _ => .pure fun _ _ => id

theorem refuses_checkGroupName {name : List Char} (h : isSpoiled name = true) (offset : Nat) :
    Refuses (checkGroupName name offset) := by
  rw [checkGroupName, isIdentifier_of_isSpoiled h]
  exact refuses_fail _ _

theorem refuses_numberedGroup {name : List Char} (h : isSpoiled name = true) :
    Refuses (numberedGroup name) := by
  unfold numberedGroup
  rw [readInt?_of_isSpoiled h]
  exact refuses_fail _ _

theorem keeps_conditionGroup :
    Keeps (Mirror verbose slack false) conditionGroup conditionGroup := by
  refine copies_takeNameBind (by decide) (fun name hname => ?_) fun name => ?_
  · rw [isIdentifier_of_isSpoiled hname]
    exact (refuses_numberedGroup hname).bind _
  · have hgroup (g : Nat) : Keeps (Mirror verbose slack false)
        (checkLookbehind g >>= fun _ => pure g) (checkLookbehind g >>= fun _ => pure g) :=
      (keeps_checkLookbehind g).bind fun _ => .pure fun _ _ => id
    exact .ite (fun _ => (keeps_namedGroup name).bind hgroup) fun _ =>
      (keeps_numberedGroup name).bind hgroup

/-- Whether an opening switches the verbose mode on. -/
def isVerboseOpening : Opening → Bool
  | .plain on _ => on.verbose
  | _ => false

/-- Behind an opening that switches the verbose mode on only where it may be. -/
def BehindOpening (verbose : Bool) (slack : Nat) (opening : Opening) (r r' : Reader) : Prop :=
  Mirror verbose slack false r r' ∧ (verbose = false → isVerboseOpening opening = false)

theorem copies_namedOpening :
    Copies (Mirror verbose slack false) (BehindOpening verbose slack) namedOpening
      namedOpening := by
  refine (keeps_accept (by decide)).bind fun _ => .ite (fun _ => ?_) fun _ =>
    (keeps_accept (by decide)).bind fun _ => .ite (fun _ => ?_) fun _ => .refused ?_
  · exact copies_takeNameBind (by decide)
      (fun name hname => (refuses_checkGroupName hname 1).bind _)
      fun name => (keeps_checkGroupName name 1).bind fun _ => .pure fun _ _ h => ⟨h, fun _ => rfl⟩
  · exact copies_takeNameBind (by decide)
      (fun name hname => (refuses_checkGroupName hname 1).bind _)
      fun name => (keeps_checkGroupName name 1).bind fun _ => (keeps_namedGroup name).bind fun g =>
        (keeps_isClosed g).bind fun _ => .ite (fun _ => .fail _ _ _) fun _ =>
          (keeps_checkLookbehind g).bind fun _ => .pure fun _ _ h => ⟨h, fun _ => rfl⟩
  · refine refuses_bind fun t => ?_
    cases t with
    | none => exact refuses_fail _ _
    | some t => exact refuses_fail _ _

theorem copies_lookbehindOpening :
    Copies (Mirror verbose slack false) (BehindOpening verbose slack) lookbehindOpening
      lookbehindOpening :=
  copies_takeBind (fun _ _ => id)
    (fun _ _ => .ite (fun _ => .pure fun _ _ h => ⟨h.1, fun _ => rfl⟩) fun _ =>
      .ite (fun _ => .pure fun _ _ h => ⟨h.1, fun _ => rfl⟩) fun _ => .fail _ _ _)
    (refuses_fail _ _) (fun _ => refuses_fail _ _) (refuses_fail _ _) (refuses_fail _ _)

/-! ## Comments -/

theorem isPlain_eq_false {t : Token} (h : t ≠ .plain c) : t.isPlain c = false :=
  beq_eq_false_iff_ne.2 h

/-- Tokens of a plain comment are mirrored by themselves. -/
theorem Mirrors.of_plainComment {t : Token} (h : Mirrors verbose slack false (t :: ts) ts')
    (hplain : isPlainComment (t :: ts) = true) (ht : t ≠ .plain ')') :
    isPlainComment ts = true ∧ ∃ us, ts' = t :: us ∧ Mirrors verbose slack false ts us := by
  cases h with
  | dangling => exact ⟨rfl, _, rfl, .nil false⟩
  | opening => simp [isPlainComment] at hplain
  | closing => simp [isPlainComment] at hplain
  | @plain c _ _ _ _ h =>
      have hc : c ≠ ')' := by simpa using ht
      rw [isPlainComment, Bool.or_eq_true, Bool.and_eq_true, beq_iff_eq] at hplain
      exact ⟨(hplain.resolve_left hc).2, _, rfl, h⟩
  | escaped _ h =>
      rw [isPlainComment, Bool.and_eq_true] at hplain
      exact ⟨hplain.2, _, rfl, h⟩
  | wrapped hc => simp [isPlainComment, hc] at hplain

/-- A comment that is plain ends where it did. -/
theorem copies_skipComment {n m : Nat} (hnm : n ≤ m) (start start' : Nat) :
    Copies (fun r r' => Mirror verbose slack false r r' ∧ isPlainComment r.rest = true)
      (fun _ => Mirror verbose slack false) (skipComment start n) (skipComment start' m) := by
  induction n generalizing m with
  | zero => exact .refused (refuses_failAt _ _)
  | succ n ih =>
      obtain ⟨m, rfl⟩ := Nat.exists_eq_add_of_le' (Nat.one_le_of_lt hnm)
      rintro r r' ⟨hr, hplain⟩ a s hrun
      rw [skipComment] at hrun ⊢
      obtain ⟨⟨o, t⟩, htake, hgo⟩ := bind_eq_ok_iff.1 hrun
      obtain ⟨rfl, -, -⟩ | ⟨token, ts, rfl, hrest, hts, rfl⟩ := take_eq_ok htake
      · exact absurd hgo (refuses_failAt _ _ _ _ _)
      · have hmirrors := hr.rest
        rw [hrest] at hmirrors hplain
        by_cases htoken : token = .plain ')'
        · subst htoken
          obtain ⟨us, hrest', -, hus⟩ := hmirrors.of_outside (by decide)
          rw [run_bind_ok (run_take hrest' (hus.not_dangling hts))]
          cases hgo
          exact ⟨_, rfl, hr.behind hus⟩
        · obtain ⟨hbehind, us, hrest', hus⟩ := hmirrors.of_plainComment hplain htoken
          rw [run_bind_ok (run_take hrest' (hus.not_dangling hts))]
          dsimp only at hgo ⊢
          rw [isPlain_eq_false htoken, if_neg Bool.false_ne_true] at hgo ⊢
          exact ih (Nat.le_of_succ_le_succ hnm) _ _ ⟨hr.behind hus, hbehind⟩ a s hgo

/-- Behind a parenthesis that opens a plain comment or none, and no group that switches the verbose
mode on unless it may be. -/
def BehindParenthesis (verbose : Bool) (slack : Nat) (r r' : Reader) : Prop :=
  Mirror verbose slack false r r' ∧ isPlainGroup r.rest = true ∧
    (verbose = false → switchesVerbose r.rest = false)

theorem copies_groupOpening (start start' : Nat) :
    Copies (BehindParenthesis verbose slack) (BehindOpening verbose slack) (groupOpening start)
      (groupOpening start') := by
  refine (copies_accept (by decide) fun _ _ h => h.1).bind fun marked => ?_
  cases marked with
  | false => exact .pure fun _ _ h => ⟨h.1, fun _ => rfl⟩
  | true =>
      refine copies_takeBind (fun _ _ h => h.1) (fun c hc => ?_) (refuses_fail _ _)
        (fun _ => refuses_fail _ _) (refuses_fail _ _) (refuses_fail _ _)
      let Behind (s s' : Reader) : Prop := Mirror verbose slack false s s' ∧
        (c = '#' → isPlainComment s.rest = true) ∧
          (verbose = false → namesVerbose (.plain c :: s.rest) = false)
      have hbehind : ∀ s s' : Reader, (Mirror verbose slack false s s' ∧ ∃ r r' : Reader,
          (Mirror verbose slack false r r' ∧ ∃ q q', BehindParenthesis verbose slack q q' ∧
            q.rest = .plain '?' :: r.rest) ∧ r.rest = .plain c :: s.rest) → Behind s s' := by
        rintro s s' ⟨hs, r, r', ⟨-, q, q', ⟨-, hplain, hswitches⟩, hq⟩, hr⟩
        rw [hq, hr] at hplain hswitches
        refine ⟨hs, ?_, hswitches⟩
        rintro rfl
        exact hplain
      refine .weaken ?_ hbehind
      have hopening {opening : Opening} (h : isVerboseOpening opening = false) :
          Copies Behind (BehindOpening verbose slack) (pure opening) (pure opening) :=
        .pure fun _ _ hs => ⟨hs.1, fun _ => h⟩
      refine .ite (fun _ => copies_namedOpening.weaken fun _ _ h => h.1) fun _ =>
        .ite (fun _ => hopening rfl) fun _ => .ite (fun hc => ?_) fun _ =>
        .ite (fun _ => hopening rfl) fun _ => .ite (fun _ => hopening rfl) fun _ =>
        .ite (fun _ => copies_lookbehindOpening.weaken fun _ _ h => h.1) fun _ =>
        .ite (fun _ => (keeps_conditionGroup.weaken fun _ _ h => h.1).bind fun _ =>
          .pure fun _ _ h => ⟨h, fun _ => rfl⟩) fun _ =>
        .ite (fun _ => hopening rfl) fun _ => .ite (fun _ => ?_) fun _ => .fail _ _ _
      · refine .getBind fun q q' hq => ?_
        have hlength : q.rest.length + 1 ≤ q'.rest.length + 1 :=
          Nat.succ_le_succ hq.1.rest.length_le
        exact ((copies_skipComment hlength start start').weaken fun _ _ h => ⟨h.1, h.2.1 hc⟩).bind
          fun _ => .pure fun _ _ h => ⟨h, fun _ => rfl⟩
      · refine ((copies_inlineFlags c).weaken fun _ _ h => ⟨h.1, h.2.2⟩).bind fun flags? => ?_
        cases flags? with
        | none => exact .pure fun _ _ h => ⟨h.1, fun _ => rfl⟩
        | some flags => exact .pure fun _ _ h => ⟨h.1, fun hv => h.2 hv _ _ rfl⟩

theorem run_skipLine_cons {m : Nat} {t : Token} (h : r.rest = t :: ts)
    (hts : ts.head? ≠ some .dangling) (ht : t ≠ .plain '\n') :
    (skipLine (m + 1)).run r = (skipLine m).run (r.behind [t] ts) := by
  rw [skipLine, run_bind_ok (run_take h hts)]
  dsimp only
  rw [isPlain_eq_false ht, if_neg Bool.false_ne_true]

theorem run_skipLine_wrapped {m : Nat} (h : r.rest = wrapped c ++ ts)
    (hts : ts.head? ≠ some .dangling) :
    (skipLine (m + 6)).run r = (skipLine m).run (r.behind (wrapped c) ts) := by
  rw [run_skipLine_cons h (by simp) (by simp), run_skipLine_cons rfl (by simp) (by simp),
    run_skipLine_cons rfl (by simp) (by simp), run_skipLine_cons rfl (by simp) (by simp),
    run_skipLine_cons rfl (by simp) (by simp), run_skipLine_cons rfl hts (by simp)]
  simp only [Reader.behind_behind]
  rfl

/-- Tokens of a plain line are mirrored by themselves or wrapped. -/
theorem Mirrors.of_plainLine {t : Token} (h : Mirrors verbose slack false (t :: ts) ts')
    (hplain : isPlainLine (t :: ts) = true) (ht : t ≠ .plain '\n') :
    isPlainLine ts = true ∧ ∃ us, (ts' = t :: us ∨ ∃ c, ts' = Pattern.wrapped c ++ us) ∧
      Mirrors verbose slack false ts us := by
  cases h with
  | dangling => exact ⟨rfl, _, .inl rfl, .nil false⟩
  | opening => simp [isPlainLine] at hplain
  | closing => simp [isPlainLine] at hplain
  | @plain c _ _ _ _ h =>
      have hc : c ≠ '\n' := by simpa using ht
      rw [isPlainLine, Bool.or_eq_true, Bool.and_eq_true, beq_iff_eq] at hplain
      exact ⟨(hplain.resolve_left hc).2, _, .inl rfl, h⟩
  | escaped _ h => exact ⟨hplain, _, .inl rfl, h⟩
  | wrapped _ _ h => exact ⟨hplain, _, .inr ⟨_, rfl⟩, h⟩

/-- A line that holds no opening bracket ends where it did. -/
theorem copies_skipLine {n m : Nat} :
    Copies (fun r r' => (Mirror verbose slack false r r' ∧ isPlainLine r.rest = true) ∧
        r'.rest.length < m)
      (fun _ => Mirror verbose slack false) (skipLine n) (skipLine m) := by
  induction n generalizing m with
  | zero => exact .throw _ _
  | succ n ih =>
      rintro r r' ⟨⟨hr, hplain⟩, hm⟩ a s hrun
      obtain ⟨⟨o, t⟩, htake, hgo⟩ := bind_eq_ok_iff.1 hrun
      have hmirrors := hr.rest
      obtain ⟨rfl, hrest, rfl⟩ | ⟨token, ts, rfl, hrest, hts, rfl⟩ := take_eq_ok htake
      · obtain ⟨m, rfl⟩ := Nat.exists_eq_add_of_le' (Nat.one_le_of_lt hm)
        rw [hrest] at hmirrors
        have htake' : take.run r' = .ok (none, r') := by
          simp [take, hmirrors.eq_nil]
        cases hgo
        rw [skipLine, run_bind_ok htake']
        exact ⟨r', rfl, hr⟩
      · rw [hrest] at hmirrors hplain
        by_cases htoken : token = .plain '\n'
        · subst htoken
          obtain ⟨us, hrest', -, hus⟩ := hmirrors.of_outside (by decide)
          obtain ⟨m, rfl⟩ := Nat.exists_eq_add_of_le' (Nat.one_le_of_lt hm)
          cases hgo
          rw [skipLine, run_bind_ok (run_take hrest' (hus.not_dangling hts))]
          exact ⟨_, rfl, hr.behind hus⟩
        · obtain ⟨hbehind, us, hrest', hus⟩ := hmirrors.of_plainLine hplain htoken
          have hts' := hus.not_dangling hts
          dsimp only at hgo
          rw [isPlain_eq_false htoken, if_neg Bool.false_ne_true] at hgo
          obtain hrest' | ⟨c, hrest'⟩ := hrest'
          · rw [hrest', List.length_cons] at hm
            obtain ⟨m, rfl⟩ := Nat.exists_eq_add_of_le' (Nat.one_le_of_lt hm)
            rw [run_skipLine_cons hrest' hts' htoken]
            exact ih _ _ ⟨⟨hr.behind hus, hbehind⟩, Nat.lt_of_succ_lt_succ hm⟩ a s hgo
          · have hlength : us.length + 6 < m := by simpa [hrest', wrapped] using hm
            obtain ⟨m, rfl⟩ := Nat.exists_eq_add_of_le' (show 6 ≤ m by omega)
            rw [run_skipLine_wrapped hrest' hts']
            exact ih _ _ ⟨⟨hr.behind hus, hbehind⟩, Nat.lt_of_add_lt_add_right hlength⟩ a s hgo

end FolderTag.Pattern
