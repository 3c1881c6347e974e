import FolderTag.Proofs.Pattern.Mirroring

/-! # Sets that the restriction writes

Inside of a set the restriction lists the members of a class. They are read as the members that the
ASCII reading gives the class, and the set ends at the same bracket. -/

namespace FolderTag.Pattern

open FolderTag.Regex FolderTag.Regex.Parse

variable {α : Type} {verbose inSet : Bool} {slack : Nat} {ts ts' : List Token} {c : Char}
variable {r r' s s' : Reader} {escapes : Escapes} {start start' fuel bound : Nat}
variable {more more' : List SetItem → Parse (List SetItem)} {items low : List SetItem}
variable {this : Token}

/-! ## Members of sets -/

theorem shrinks_characterEscape (c : Char) : Shrinks (characterEscape c) :=
  .ite (fun _ => shrinks_hexEscape _ _) fun _ => .ite (fun _ => shrinks_hexEscape _ _) fun _ =>
    .ite (fun _ => shrinks_hexEscape _ _) fun _ => .ite (fun _ => .refused refuses_nameEscape)
      fun _ => .ite (fun _ => .refused (refuses_fail _ _)) fun _ => .pure _

theorem shrinks_setEscape (c : Char) : Shrinks (setEscape c) := by
  unfold setEscape
  cases controlEscape? c with
  | some n => exact .pure _
  | none =>
      cases classEscape? c with
      | some item => exact .pure _
      | none =>
          exact .ite (fun _ => (shrinks_takeUpTo _ _).bind fun _ =>
            .ite (fun _ => .refused (refuses_fail _ _)) fun _ => .pure _)
              fun _ => (shrinks_characterEscape c).bind fun _ => .pure _

theorem asciiSet?_eq_none (h : asciiMembers? c = none) : asciiSet? c = none := by
  unfold asciiMembers? at h
  unfold asciiSet?
  split at h <;> simp_all

/-- A token inside of a set that is not replaced and does not end the set. -/
inductive IsMember (ts : List Token) : Token → Prop where
  | plain (c : Char) (hc : c ≠ ']') : IsMember ts (.plain c)
  | escaped (c : Char) (hc : asciiMembers? c = none)
      (hdigits : (isOctal c && swallowsDigits 2 ts) = false) : IsMember ts (.escaped c)
  | dangling : IsMember ts .dangling

/-- Readers inside of a set, the second of them with less than `bound` tokens. -/
def InSet (verbose : Bool) (slack bound : Nat) (r r' : Reader) : Prop :=
  Mirror verbose slack true r r' ∧ r'.rest.length < bound

theorem copies_setMembers (t : Token) :
    Copies (fun r r' => IsMember r.rest t ∧ InSet verbose slack bound r r')
      (fun members r r' => members ≠ [] ∧ InSet verbose slack bound r r')
      (setMembers asciiEscapes t) (setMembers .standard t) := by
  cases t with
  | plain c => exact .pure fun _ _ h => ⟨by simp, h.2⟩
  | dangling => exact .pure fun _ _ h => ⟨by simp, h.2⟩
  | escaped c =>
      rintro r r' ⟨hmember, hr, hbound⟩
      cases hmember with
      | escaped _ hc hdigits =>
          have hsame :
              setMembers asciiEscapes (.escaped c) = setMembers .standard (.escaped c) := by
            simp only [setMembers, asciiEscapes, asciiSet?_eq_none hc]
            rfl
          rw [hsame]
          exact Copies.bind ((copies_setEscape c).bounded (shrinks_setEscape c) bound)
            (fun item => .pure fun _ _ h => ⟨by simp, h⟩) r r' ⟨⟨hr, hdigits⟩, hbound⟩

theorem refuses_setRange {this that : Token} {low high : List SetItem}
    (h : (∀ a, low ≠ [.code a]) ∨ ∀ b, high ≠ [.code b]) :
    Refuses (setRange this that low high) := by
  unfold setRange
  split
  · rename_i a b
    exact h.elim (fun h => absurd rfl (h a)) fun h => absurd rfl (h b)
  · exact refuses_fail _ _

theorem keeps_setRange {I : Reader → Reader → Prop} (this that : Token) (low high : List SetItem) :
    Keeps I (setRange this that low high) (setRange this that low high) := by
  unfold setRange
  split
  · exact .ite (fun _ => .fail _ _ _) fun _ => .pure fun _ _ => id
  · exact .fail _ _ _

/-- A token is taken inside of a set. -/
theorem copies_takeMemberBind {I : Reader → Reader → Prop} {O : α → Reader → Reader → Prop}
    {g h : Option Token → Parse α} (hI : ∀ r r', I r r' → Mirror verbose slack true r r')
    (hclosing : Copies (fun s s' => Mirror verbose slack false s s' ∧
        ∃ r r', I r r' ∧ r.rest = .plain ']' :: s.rest) O (g (some (.plain ']')))
          (h (some (.plain ']'))))
    (hmember : ∀ t, Copies (fun s s' => IsMember s.rest t ∧ Mirror verbose slack true s s' ∧
        ∃ r r', I r r' ∧ s'.rest.length < r'.rest.length) O (g (some t)) (h (some t)))
    (hlisted : ∀ c members r r' s ts', asciiMembers? c = some members → I r r' →
      r'.rest = members.map .plain ++ ts' → s.rest.head? ≠ some .dangling →
      Mirror verbose slack true s (r'.behind (members.map .plain) ts') →
      ∀ a t, (g (some (.escaped c))).run s = .ok (a, t) →
        ∃ t', (take >>= h).run r' = .ok (a, t') ∧ O a t t')
    (hnone : Refuses (g none)) :
    Copies I O (take >>= g) (take >>= h) := by
  intro r r' hr a s hrun
  rw [StateT.run_bind] at hrun
  obtain ⟨⟨o, t⟩, htake, hgo⟩ := bind_eq_ok_iff.1 hrun
  obtain ⟨rfl, -, rfl⟩ | ⟨token, ts, rfl, hrest, hts, rfl⟩ := take_eq_ok htake
  · exact absurd hgo (hnone _ _ _)
  · have hmirror := hI r r' hr
    have hmirrors := hmirror.rest
    rw [hrest] at hmirrors
    generalize hrest' : r'.rest = rest' at hmirrors
    cases hmirrors with
    | dangling =>
        rw [run_bind_ok (run_take hrest' nofun)]
        refine hmember .dangling _ _ ⟨.dangling, hmirror.behind (.nil true), r, r', hr, ?_⟩ a s hgo
        simp [hrest']
    | @member c _ ts' hmirrors =>
        have htake' := run_take hrest' (hmirrors.not_dangling hts)
        by_cases hc : c = ']'
        · subst hc
          rw [run_bind_ok htake']
          exact hclosing _ _ ⟨hmirror.behind hmirrors, r, r', hr, hrest⟩ a s hgo
        · rw [bne_iff_ne.2 hc] at hmirrors
          rw [run_bind_ok htake']
          refine hmember _ _ _ ⟨.plain _ hc, hmirror.behind hmirrors, r, r', hr, ?_⟩ a s hgo
          simp [hrest']
    | escapedMember hc hdigits hmirrors =>
        rw [run_bind_ok (run_take hrest' (hmirrors.not_dangling hts))]
        refine hmember _ _ _ ⟨.escaped _ hc hdigits, hmirror.behind hmirrors, r, r', hr, ?_⟩ a s hgo
        simp [hrest']
    | listed hc hmirrors =>
        exact hlisted _ _ r r' _ _ hc hr hrest' hts (hmirror.behind hmirrors) a s hgo

/-! ## Sets -/

/-- The members that a listed class stands for. -/
theorem setMembers_listed {members : List Char} (h : asciiMembers? c = some members) :
    ∃ set, asciiSet? c = some set ∧ set ≠ [] ∧
      setMembers asciiEscapes (.escaped c) = pure set ∧ ∀ a, set ≠ [.code a] := by
  obtain ⟨rfl, -⟩ | ⟨rfl, -⟩ := asciiMembers?_eq_some h
  · exact ⟨_, rfl, by simp, rfl, by simp⟩
  · exact ⟨_, rfl, by simp, rfl, by simp⟩

/-- What follows members that are the same in both readings. -/
theorem copies_setBehind (hlow : low ≠ [])
    (hmore : ∀ items, items ≠ [] → Copies (InSet verbose slack bound)
      (fun _ => Mirror verbose slack false) (more items) (more' items)) :
    Copies (InSet verbose slack bound) (fun _ => Mirror verbose slack false)
      (setBehind asciiEscapes start more items this low)
      (setBehind .standard start' more' items this low) := by
  refine ((keeps_accept (by decide)).bounded (shrinks_accept _) bound).bind fun taken => .ite
    (fun _ => copies_takeMemberBind (fun _ _ h => h.1) ?_ (fun that => ?_) ?_ (refuses_failAt _ _))
    fun _ => hmore _ (by simp [hlow])
  · exact .pure fun _ _ h => h.1
  · have hbound : ∀ s s' : Reader, (IsMember s.rest that ∧ Mirror verbose slack true s s' ∧
        ∃ r r', (Mirror verbose slack true r r' ∧ r'.rest.length < bound) ∧
          s'.rest.length < r'.rest.length) →
        IsMember s.rest that ∧ InSet verbose slack bound s s' := by
      rintro s s' ⟨hthat, hs, r, r', hr, hlength⟩
      exact ⟨hthat, hs, Nat.lt_trans hlength hr.2⟩
    refine .weaken (.ite (fun hend => ?_) fun _ => (copies_setMembers that).bind fun high =>
      ((keeps_setRange this that low high).weaken fun _ _ => And.right).bind fun range =>
        hmore _ (List.cons_ne_nil _ _)) hbound
    rintro s s' ⟨hthat, -⟩
    cases eq_of_beq hend
    cases hthat with
    | plain _ hc => exact absurd rfl hc
  · rintro d members r r' s ts' hd - - - - a t hrun
    obtain ⟨set, -, -, hset, hcode⟩ := setMembers_listed hd
    refine absurd hrun ?_
    refine refuses_ite (fun hend => ?_) (fun _ => ?_) s a t
    · cases eq_of_beq hend
    · rw [hset, pure_bind]
      exact (refuses_setRange (.inr hcode)).bind _

theorem run_setItems_plain (hc : c ≠ ']' ∨ items = []) (h : r.rest = .plain c :: ts)
    (hts : ts.head? ≠ some .dangling) :
    (setItems escapes start (fuel + 1) items).run r =
      (setBehind escapes start (setItems escapes start fuel) items (.plain c) [.code c.toNat]).run
        (r.behind [.plain c] ts) := by
  have hgoesOn : ((Token.plain c).isPlain ']' && !items.isEmpty) = false := by
    simpa [Token.isPlain, or_iff_not_imp_left] using hc
  rw [setItems, run_bind_ok (run_take h hts)]
  dsimp only
  rw [hgoesOn, if_neg Bool.false_ne_true]
  rfl

theorem run_setItems_end (hitems : items ≠ []) (h : r.rest = .plain ']' :: ts)
    (hts : ts.head? ≠ some .dangling) :
    (setItems escapes start (fuel + 1) items).run r =
      .ok (items.reverse, r.behind [.plain ']'] ts) := by
  rw [setItems, run_bind_ok (run_take h hts)]
  dsimp only
  have hend : ((Token.plain ']').isPlain ']' && !items.isEmpty) = true := by
    simp [Token.isPlain, hitems]
  rw [if_pos hend]
  rfl

theorem run_setBehind_next (h : r.rest.head? ≠ some (.plain '-')) :
    (setBehind escapes start more items this low).run r = (more (low.reverse ++ items)).run r := by
  rw [setBehind, run_bind_ok (run_accept_of_ne h)]
  rfl

theorem run_setBehind_end (h : r.rest = .plain '-' :: .plain ']' :: ts)
    (hts : ts.head? ≠ some .dangling) :
    (setBehind escapes start more items this low).run r =
      .ok (items.reverse ++ low ++ [.code 45], r.behind [.plain '-', .plain ']'] ts) := by
  rw [setBehind, run_bind_ok (run_accept h (by simp))]
  rw [if_pos rfl, run_bind_ok (run_take rfl hts)]
  rfl

theorem run_setItems_range {a b : Char} (ha : a ≠ ']') (hb : b ≠ ']') (hab : a.toNat ≤ b.toNat)
    (h : r.rest = .plain a :: .plain '-' :: .plain b :: ts) (hts : ts.head? ≠ some .dangling) :
    (setItems .standard start (fuel + 1) items).run r =
      (setItems .standard start fuel (.range a.toNat b.toNat :: items)).run
        (r.behind [.plain a, .plain '-', .plain b] ts) := by
  have hplain : (Token.plain b).isPlain ']' = false := by simpa [Token.isPlain] using hb
  rw [run_setItems_plain (.inl ha) h (by simp), setBehind, run_bind_ok (run_accept rfl (by simp))]
  rw [if_pos rfl, run_bind_ok (run_take rfl hts)]
  dsimp only
  rw [hplain, if_neg Bool.false_ne_true, Reader.behind_behind, Reader.behind_behind]
  have hrange : setRange (.plain a) (.plain b) [.code a.toNat] [.code b.toNat] =
      pure (.range a.toNat b.toNat) := if_neg (Nat.not_lt.2 hab)
  have hmembers : setMembers .standard (.plain b) = pure [.code b.toNat] := rfl
  rw [hmembers, pure_bind, hrange, pure_bind]
  rfl

/-- A class can be followed by a hyphen only at the end of a set. -/
theorem setBehind_eq_ok {members : List SetItem} (hlow : ∀ a, low ≠ [.code a])
    (h : (setBehind escapes start more items this low).run r = .ok (members, s)) :
    (∃ ts, r.rest = .plain '-' :: .plain ']' :: ts ∧ ts.head? ≠ some .dangling ∧
        members = items.reverse ++ low ++ [.code 45] ∧ s = r.behind [.plain '-', .plain ']'] ts) ∨
      r.rest.head? ≠ some (.plain '-') ∧
        (more (low.reverse ++ items)).run r = .ok (members, s) := by
  rw [setBehind, StateT.run_bind] at h
  obtain ⟨⟨taken, t⟩, haccept, hgo⟩ := bind_eq_ok_iff.1 h
  clear h
  obtain ⟨rfl, ts, hrest, -, rfl⟩ | ⟨rfl, hrest, rfl⟩ := accept_eq_ok haccept
  · rw [if_pos rfl, StateT.run_bind] at hgo
    obtain ⟨⟨o, t⟩, htake, h⟩ := bind_eq_ok_iff.1 hgo
    obtain ⟨rfl, -, -⟩ | ⟨that, ts', rfl, hrest', hts', rfl⟩ := take_eq_ok htake
    · exact absurd h (refuses_failAt _ _ _ _ _)
    · by_cases hend : that.isPlain ']' = true
      · dsimp only at h
        rw [if_pos hend] at h
        cases eq_of_beq hend
        rw [Reader.behind_rest] at hrest'
        rw [Reader.behind_behind] at h
        cases h
        exact .inl ⟨ts', by rw [hrest, hrest'], hts', rfl, rfl⟩
      · dsimp only at h
        rw [if_neg hend] at h
        exact absurd h (refuses_bind (fun _ => (refuses_setRange (.inl hlow)).bind _) _ _ _)
  · exact .inr ⟨hrest, hgo⟩

theorem run_setItems_word (h : r.rest = "a-zA-Z0-9_".toList.map .plain ++ ts)
    (hts : ts.head? ≠ some .dangling) :
    (setItems .standard start (fuel + 10) items).run r =
      (setBehind .standard start (setItems .standard start (fuel + 6))
        (.range 48 57 :: .range 65 90 :: .range 97 122 :: items) (.plain '_') [.code 95]).run
          (r.behind ("a-zA-Z0-9_".toList.map .plain) ts) := by
  rw [run_setItems_range (by decide) (by decide) (by decide) h (by simp),
    run_setItems_range (by decide) (by decide) (by decide) rfl (by simp),
    run_setItems_range (by decide) (by decide) (by decide) rfl (by simp),
    run_setItems_plain (.inl (by decide)) rfl hts]
  simp only [Reader.behind_behind]
  rfl

theorem run_setItems_digits (h : r.rest = "0-9".toList.map .plain ++ ts)
    (hts : ts.head? ≠ some .dangling) :
    (setItems .standard start (fuel + 1) items).run r =
      (setItems .standard start fuel (.range 48 57 :: items)).run
        (r.behind ("0-9".toList.map .plain) ts) := by
  rw [run_setItems_range (by decide) (by decide) (by decide) h hts]
  rfl

/-- A hyphen at the end of a set is a member. -/
theorem run_setItems_hyphen (h : r.rest = .plain '-' :: .plain ']' :: ts)
    (hts : ts.head? ≠ some .dangling) :
    (setItems escapes start (fuel + 2) items).run r =
      .ok (items.reverse ++ [.code 45], r.behind [.plain '-', .plain ']'] ts) := by
  rw [run_setItems_plain (.inl (by decide)) h (by simp), run_setBehind_next (by simp),
    run_setItems_end (by simp) rfl hts, Reader.behind_behind]
  simp

/-- The members that are listed for a class are read as those that the ASCII reading gives it. -/
theorem run_setItems_listed (start : Nat) (items : List SetItem) {members : List Char}
    {set : List SetItem}
    (hc : asciiMembers? c = some members) (hset : asciiSet? c = some set)
    (hfuel : members.length ≤ fuel) (h : r.rest = members.map .plain ++ ts)
    (hts : ts.head? ≠ some .dangling) :
    (ts.head? ≠ some (.plain '-') → ∃ left, fuel ≤ left + members.length ∧
      (setItems .standard start fuel items).run r =
        (setItems .standard start left (set.reverse ++ items)).run
          (r.behind (members.map .plain) ts)) ∧
    ∀ rest, ts = .plain '-' :: .plain ']' :: rest → rest.head? ≠ some .dangling →
      members.length + 2 ≤ fuel →
      (setItems .standard start fuel items).run r = .ok (items.reverse ++ set ++ [.code 45],
        r.behind (members.map .plain ++ [.plain '-', .plain ']']) rest) := by
  obtain ⟨rfl, rfl⟩ | ⟨rfl, rfl⟩ := asciiMembers?_eq_some hc
  · cases hset
    have hlength : "a-zA-Z0-9_".toList.length = 10 := rfl
    rw [hlength] at hfuel ⊢
    obtain ⟨fuel, rfl⟩ := Nat.exists_eq_add_of_le' hfuel
    rw [run_setItems_word h hts]
    constructor
    · exact fun hhead => ⟨fuel + 6, by omega, run_setBehind_next hhead⟩
    · rintro rest rfl hrest -
      rw [run_setBehind_end rfl hrest, Reader.behind_behind]
      simp
  · cases hset
    have hlength : "0-9".toList.length = 3 := rfl
    rw [hlength] at hfuel ⊢
    obtain ⟨fuel, rfl⟩ := Nat.exists_eq_add_of_le' hfuel
    rw [run_setItems_digits h hts]
    constructor
    · exact fun _ => ⟨fuel + 2, by omega, rfl⟩
    · rintro rest rfl hrest -
      rw [run_setItems_hyphen rfl hrest, Reader.behind_behind]
      simp

/-- What follows a class that is listed: the ASCII reading goes on behind the class, and the other
one first reads its members one by one. -/
theorem exists_setItems_listed {members : List Char} {set found : List SetItem} {t : Reader}
    (hmore : ∀ {bound items}, items ≠ [] → Copies (InSet verbose slack bound)
      (fun _ => Mirror verbose slack false) (setItems asciiEscapes start fuel items)
      (setItems .standard start' bound items))
    (hc : asciiMembers? c = some members) (hset : asciiSet? c = some set)
    (hbound : r'.rest.length < bound) (hrest : r'.rest = members.map .plain ++ ts')
    (hdangling : s.rest.head? ≠ some .dangling)
    (hs : Mirror verbose slack true s (r'.behind (members.map .plain) ts'))
    (hrun : (setBehind asciiEscapes start (setItems asciiEscapes start fuel) items this set).run s =
      .ok (found, t)) :
    ∃ t', (setItems .standard start' bound items).run r' = .ok (found, t') ∧
      Mirror verbose slack false t t' := by
  obtain ⟨set', hset', hne, -, hcode⟩ := setMembers_listed hc
  cases hset.symm.trans hset'
  rw [hrest, List.length_append, List.length_map] at hbound
  have hfuel : members.length ≤ bound := by omega
  obtain ⟨hgoesOn, hends⟩ := run_setItems_listed start' items hc hset hfuel hrest
    (hs.rest.not_dangling hdangling)
  obtain ⟨ts, hts, hlast, rfl, rfl⟩ | ⟨hnext, hrun⟩ := setBehind_eq_ok hcode hrun
  · have hmirrors := hs.rest
    rw [hts, Reader.behind_rest] at hmirrors
    obtain ⟨_, rfl, hclosing⟩ := hmirrors.plain_cons (by decide)
    cases hclosing with
    | member hbehind =>
        simp only [List.length_cons] at hbound
        refine ⟨_, hends _ rfl (hbehind.not_dangling hlast) (by omega), ?_⟩
        rw [← Reader.behind_behind]
        exact hs.behind hbehind
  · have hnext' : ts'.head? ≠ some (.plain '-') := fun h =>
      hnext ((hs.rest.head?_eq_plain_iff (by decide)).1 h)
    obtain ⟨left, hleft, hrun'⟩ := hgoesOn hnext'
    have hbound' : (r'.behind (members.map .plain) ts').rest.length < left := by
      rw [Reader.behind_rest]
      omega
    obtain ⟨t', ht', ht⟩ := hmore (by simp [hne]) _ _ ⟨hs, hbound'⟩ found t hrun
    exact ⟨t', hrun'.trans ht', ht⟩

/-- Members of a set: a class that is listed is the class of the ASCII reading. -/
theorem copies_setItems : Copies
    (fun r r' => InSet verbose slack bound r r' ∧ (items = [] → r.rest.head? ≠ some (.plain ']')))
    (fun _ => Mirror verbose slack false) (setItems asciiEscapes start fuel items)
    (setItems .standard start' bound items) := by
  induction fuel generalizing bound items with
  | zero => exact .refused (refuses_failAt _ _)
  | succ fuel ih =>
      cases bound with
      | zero => exact fun r r' hr => absurd hr.1.2 (Nat.not_lt_zero _)
      | succ bound =>
          have hmore {bound : Nat} {items : List SetItem} (hitems : items ≠ []) :
              Copies (InSet verbose slack bound) (fun _ => Mirror verbose slack false)
                (setItems asciiEscapes start fuel items) (setItems .standard start' bound items) :=
            ih.weaken fun r r' hr => ⟨hr, fun h => absurd h hitems⟩
          refine
            copies_takeMemberBind (fun _ _ h => h.1.1) ?_ (fun this => ?_) ?_ (refuses_failAt _ _)
          · rintro s s' ⟨hs, r, r', ⟨-, hfirst⟩, hrest⟩
            have hitems : items ≠ [] := fun h => hfirst h (by rw [hrest, List.head?_cons])
            have hend : ((Token.plain ']').isPlain ']' && !items.isEmpty) = true := by
              simp [Token.isPlain, hitems]
            dsimp only
            rw [if_pos hend, if_pos hend]
            exact Copies.pure (fun _ _ => id) s s' hs
          · have hbound : ∀ s s' : Reader, (IsMember s.rest this ∧ Mirror verbose slack true s s' ∧
                ∃ r r', (InSet verbose slack (bound + 1) r r' ∧
                  (items = [] → r.rest.head? ≠ some (.plain ']'))) ∧
                  s'.rest.length < r'.rest.length) →
                IsMember s.rest this ∧ InSet verbose slack bound s s' := by
              rintro s s' ⟨hthis, hs, r, r', hr, hlength⟩
              exact ⟨hthis, hs, Nat.lt_of_lt_of_le hlength (Nat.le_of_lt_succ hr.1.2)⟩
            refine .weaken
              (.ite (fun hend => ?_) fun _ => (copies_setMembers this).bind fun low => ?_)
              hbound
            · rintro s s' ⟨hthis, -⟩
              cases eq_of_beq (Bool.and_eq_true _ _ ▸ hend).1
              cases hthis with
              | plain _ hc => exact absurd rfl hc
            · rintro s s' ⟨hlow, hs⟩
              exact copies_setBehind hlow (fun _ => hmore) s s' hs
          · rintro c members r r' s ts' hc ⟨⟨-, hbound⟩, -⟩ hrest hdangling hs a t hrun
            obtain ⟨set, hset, -, hmembers, -⟩ := setMembers_listed hc
            have hplain : (Token.escaped c).isPlain ']' = false := rfl
            dsimp only at hrun
            rw [hplain, Bool.false_and, if_neg Bool.false_ne_true, hmembers, pure_bind] at hrun
            exact exists_setItems_listed hmore hc hset hbound hrest hdangling hs hrun

/-- A set whose first member is no closing bracket, after its opening bracket. -/
theorem copies_setNode_opening (start start' : Nat) :
    Copies (fun r r' => Mirror verbose slack true r r' ∧ closesAtOnce r.rest = false)
      (fun _ => Mirror verbose slack false) (setNode asciiEscapes start)
      (setNode .standard start') := by
  refine (copies_accept (by decide) fun _ _ h => h.1).bind fun negated => ?_
  rintro s s' ⟨hs, r, r', ⟨-, hclosing⟩, hnegated⟩
  have hfirst : s.rest.head? ≠ some (.plain ']') := by
    intro hhead
    obtain ⟨ts, hrest⟩ := List.head?_eq_some_iff.1 hhead
    cases negated with
    | true =>
        rw [if_pos rfl] at hnegated
        rw [hnegated, hrest] at hclosing
        cases hclosing
    | false =>
        rw [if_neg Bool.false_ne_true] at hnegated
        rw [← hnegated.1, hrest] at hclosing
        cases hclosing
  refine fun n t hrun => ?_
  obtain ⟨⟨items, u⟩, hitems, hnode⟩ := bind_eq_ok_iff.1 hrun
  obtain ⟨u', hitems', hu⟩ := copies_setItems s s'
    ⟨⟨hs, Nat.lt_succ_self _⟩, fun _ => hfirst⟩ items u hitems
  cases hnode
  exact ⟨u', bind_eq_ok_iff.2 ⟨_, hitems', rfl⟩, hu⟩

/-- Readers of a set whose first member is a closing bracket, with what stands before it. -/
def AtBracket (verbose : Bool) (slack : Nat) (caret : List Token) (r r' : Reader) : Prop :=
  ∃ ts ts', r.rest = caret ++ .plain ']' :: ts ∧ r'.rest = caret ++ .plain ']' :: ts' ∧
    Mirror verbose slack true (r.behind (caret ++ [.plain ']']) ts)
      (r'.behind (caret ++ [.plain ']']) ts')

theorem copies_setItems_closing : Copies
    (fun r r' => AtBracket verbose slack [] r r' ∧ r'.rest.length < bound)
    (fun _ => Mirror verbose slack false) (setItems asciiEscapes start fuel [])
    (setItems .standard start' bound []) := by
  rintro r r' ⟨⟨ts, ts', hrest, hrest', hr⟩, hbound⟩ items s hrun
  rw [hrest', List.nil_append, List.length_cons] at hbound
  obtain ⟨bound, rfl⟩ := Nat.exists_eq_add_of_le' (Nat.one_le_of_lt hbound)
  cases fuel with
  | zero => exact absurd hrun (refuses_failAt _ _ _ _ _)
  | succ fuel =>
      have hts : ts.head? ≠ some .dangling := (takeBind_eq_ok hrest hrun).1
      have hmore (items : List SetItem) (hitems : items ≠ []) :
          Copies (InSet verbose slack bound) (fun _ => Mirror verbose slack false)
            (setItems asciiEscapes start fuel items) (setItems .standard start' bound items) :=
        copies_setItems.weaken fun r r' hr => ⟨hr, (absurd · hitems)⟩
      rw [run_setItems_plain (.inr rfl) hrest hts] at hrun
      rw [run_setItems_plain (.inr rfl) hrest' (hr.rest.not_dangling hts)]
      refine copies_setBehind (List.cons_ne_nil _ _) hmore _ _ ⟨hr, ?_⟩ items s hrun
      exact Nat.lt_of_succ_lt_succ hbound

/-- A set whose first member is a closing bracket, after its opening bracket. -/
theorem copies_setNode_closing {caret : List Token} (hcaret : caret = [] ∨ caret = [.plain '^'])
    (start start' : Nat) :
    Copies (AtBracket verbose slack caret) (fun _ => Mirror verbose slack false)
      (setNode asciiEscapes start) (setNode .standard start') := by
  have haccept : Copies (AtBracket verbose slack caret) (fun _ => AtBracket verbose slack [])
      (accept '^') (accept '^') := by
    rintro r r' ⟨ts, ts', hrest, hrest', hr⟩ taken s hrun
    obtain ⟨rfl, us, hcons, -, rfl⟩ | ⟨rfl, hne, rfl⟩ := accept_eq_ok hrun
    · obtain rfl | rfl := hcaret
      · simp [hrest] at hcons
      · cases hrest.symm.trans hcons
        refine ⟨_, run_accept hrest' (by simp), ts, ts', rfl, rfl, ?_⟩
        rw [Reader.behind_behind, Reader.behind_behind]
        exact hr
    · obtain rfl | rfl := hcaret
      · exact ⟨r', run_accept_of_ne (by simp [hrest']), ts, ts', hrest, hrest', hr⟩
      · simp [hrest] at hne
  refine haccept.bind fun negated s s' hs n t hrun => ?_
  obtain ⟨⟨items, u⟩, hitems, hnode⟩ := bind_eq_ok_iff.1 hrun
  obtain ⟨u', hitems', hu⟩ := copies_setItems_closing s s' ⟨hs, Nat.lt_succ_self _⟩ items u hitems
  cases hnode
  exact ⟨u', bind_eq_ok_iff.2 ⟨_, hitems', rfl⟩, hu⟩

/-- A set with its opening bracket is the same in both readings. -/
theorem copies_set (start start' : Nat) :
    Copies (fun r r' => Mirror verbose slack false r r' ∧ r.rest.head? = some (.plain '['))
      (fun _ => Mirror verbose slack false) (take >>= fun _ => setNode asciiEscapes start)
      (take >>= fun _ => setNode .standard start') := by
  rintro r r' ⟨hr, hhead⟩ n s hrun
  obtain ⟨ts, hrest⟩ := List.head?_eq_some_iff.1 hhead
  obtain ⟨hts, hgo⟩ := takeBind_eq_ok hrest hrun
  have hmirrors := hr.rest
  rw [hrest] at hmirrors
  generalize hrest' : r'.rest = rest' at hmirrors
  cases hmirrors with
  | plain hset => exact absurd rfl hset
  | opening hclosing hbehind =>
      rw [run_bind_ok (run_take hrest' (hbehind.not_dangling hts))]
      exact copies_setNode_opening start start' _ _ ⟨hr.behind hbehind, hclosing⟩ n s hgo
  | @closing caret ts ts' hcaret hbehind =>
      have hcaret' : (caret ++ Token.plain ']' :: ts').head? ≠ some .dangling := by
        obtain rfl | rfl := hcaret <;> simp
      rw [run_bind_ok (run_take hrest' hcaret')]
      refine copies_setNode_closing hcaret start start' _ _ ⟨ts, ts', rfl, rfl, ?_⟩ n s hgo
      rw [Reader.behind_behind, Reader.behind_behind]
      exact hr.behind hbehind

end FolderTag.Pattern
