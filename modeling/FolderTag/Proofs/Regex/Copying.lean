import FolderTag.Proofs.Regex.Reading

/-! # Reading steps copied from another reader

A step of one reader, and a step that another reader makes instead. Where the first has a value, so
has the second, and the readers behind it belong together again. -/

namespace FolderTag.Regex.Parse

variable {α β : Type} {I J : Reader → Reader → Prop} {O : α → Reader → Reader → Prop}
variable {O' : β → Reader → Reader → Prop}

/-- A step that has no value. -/
def Refuses (p : Parse α) : Prop := ∀ r a s, p.run r ≠ .ok (a, s)

/-- From readers that `I` relates, `q` has the values that `p` has, and `O` relates the readers
behind. -/
def Copies (I : Reader → Reader → Prop) (O : α → Reader → Reader → Prop) (p q : Parse α) : Prop :=
  ∀ r r', I r r' → ∀ a s, p.run r = .ok (a, s) → ∃ s', q.run r' = .ok (a, s') ∧ O a s s'

/-- Steps behind which readers are related as before. -/
abbrev Keeps (I : Reader → Reader → Prop) (p q : Parse α) : Prop := Copies I (fun _ => I) p q

theorem refuses_throw (e : Error) : Refuses (throw e : Parse α) := by
  intro r a s h
  cases h

theorem refuses_failAt (cause : Cause) (position : Nat) :
    Refuses (failAt cause position : Parse α) :=
  refuses_throw _

theorem Refuses.bind {p : Parse α} (h : Refuses p) (g : α → Parse β) : Refuses (p >>= g) := by
  intro r b s hrun
  rw [StateT.run_bind] at hrun
  obtain ⟨⟨a, t⟩, hfirst, -⟩ := bind_eq_ok_iff.1 hrun
  exact h r a t hfirst

theorem refuses_bind {p : Parse α} {g : α → Parse β} (h : ∀ a, Refuses (g a)) :
    Refuses (p >>= g) := by
  intro r b s hrun
  rw [StateT.run_bind] at hrun
  obtain ⟨⟨a, t⟩, -, hrun⟩ := bind_eq_ok_iff.1 hrun
  exact h a t b s hrun

theorem refuses_fail (cause : Cause) (offset : Nat) : Refuses (fail cause offset : Parse α) :=
  refuses_bind fun _ => refuses_failAt cause _

theorem refuses_ite {c : Prop} [Decidable c] {p q : Parse α} (hp : c → Refuses p)
    (hq : ¬ c → Refuses q) : Refuses (if c then p else q) := by
  split
  · exact hp ‹_›
  · exact hq ‹_›

namespace Copies

theorem pure {a : α} (h : ∀ r r', I r r' → O a r r') :
    Copies I O (Pure.pure a : Parse α) (Pure.pure a) := by
  rintro r r' hr a' s hrun
  cases hrun
  exact ⟨r', rfl, h r r' hr⟩

theorem refused {p q : Parse α} (h : Refuses p) : Copies I O p q :=
  fun r _ _ a s hrun => absurd hrun (h r a s)

theorem throw (e : Error) (q : Parse α) : Copies I O (MonadExcept.throw e : Parse α) q :=
  refused (refuses_throw e)

theorem fail (cause : Cause) (offset : Nat) (q : Parse α) :
    Copies I O (Parse.fail cause offset : Parse α) q :=
  refused (refuses_fail cause offset)

theorem bind {p q : Parse α} {g h : α → Parse β} (hp : Copies I O p q)
    (hg : ∀ a, Copies (O a) O' (g a) (h a)) : Copies I O' (p >>= g) (q >>= h) := by
  intro r r' hr b s hrun
  rw [StateT.run_bind] at hrun ⊢
  obtain ⟨⟨a, t⟩, hfirst, hrun⟩ := bind_eq_ok_iff.1 hrun
  obtain ⟨t', hfirst', ht⟩ := hp r r' hr a t hfirst
  rw [hfirst']
  exact hg a t t' ht b s hrun

theorem getBind {g h : Reader → Parse α} (hg : ∀ r r', I r r' → Copies I O (g r) (h r')) :
    Copies I O (get >>= g) (get >>= h) := fun r r' hr => hg r r' hr r r' hr

theorem set {O : Unit → Reader → Reader → Prop} {r r' : Reader} (h : O () r r') :
    Copies I O (MonadStateOf.set r : Parse Unit) (MonadStateOf.set r') := by
  rintro _ _ - a s hrun
  cases hrun
  exact ⟨r', rfl, h⟩

theorem update {O : Unit → Reader → Reader → Prop} {g h : Reader → Reader}
    (hg : ∀ r r', I r r' → O () (g r) (h r')) :
    Copies I O (modify g : Parse Unit) (modify h) := by
  rintro r r' hr a s hrun
  cases hrun
  exact ⟨h r', rfl, hg r r' hr⟩

theorem ite {c : Prop} [Decidable c] {p p' q q' : Parse α} (hp : c → Copies I O p q)
    (hq : ¬ c → Copies I O p' q') : Copies I O (if c then p else p') (if c then q else q') := by
  split
  · exact hp ‹_›
  · exact hq ‹_›

theorem weaken {p q : Parse α} (hpq : Copies I O p q) (h : ∀ r r', J r r' → I r r') :
    Copies J O p q := fun r r' hr => hpq r r' (h r r' hr)

theorem strengthen {P : α → Reader → Reader → Prop} {p q : Parse α} (hpq : Copies I O p q)
    (h : ∀ a r r', O a r r' → P a r r') : Copies I P p q := by
  intro r r' hr a s hrun
  obtain ⟨s', hrun', hs⟩ := hpq r r' hr a s hrun
  exact ⟨s', hrun', h a s s' hs⟩

end Copies

/-- What taking a token does. -/
theorem take_eq_ok {r s : Reader} {o : Option Token} (h : take.run r = .ok (o, s)) :
    (o = none ∧ r.rest = [] ∧ s = r) ∨ ∃ t ts, o = some t ∧ r.rest = t :: ts ∧
      ts.head? ≠ some .dangling ∧ s = r.behind [t] ts := by
  cases hrest : r.rest with
  | nil =>
      simp only [take, StateT.run_bind, StateT.run_get, pure_eq_ok, ok_bind, hrest] at h
      cases h
      exact .inl ⟨rfl, rfl, rfl⟩
  | cons t ts =>
      by_cases hdangling : ts.head? = some .dangling
      · simp only [take, StateT.run_bind, StateT.run_get, pure_eq_ok, ok_bind, hrest,
          if_pos hdangling] at h
        cases h
      · rw [run_take hrest hdangling] at h
        cases h
        exact .inr ⟨t, ts, rfl, rfl, hdangling, rfl⟩

/-- A step that takes a token goes on behind it. -/
theorem takeBind_eq_ok {r s : Reader} {t : Token} {ts : List Token} {a : α}
    {g : Option Token → Parse α} (hrest : r.rest = t :: ts)
    (h : (take >>= g).run r = .ok (a, s)) :
    ts.head? ≠ some .dangling ∧ (g (some t)).run (r.behind [t] ts) = .ok (a, s) := by
  rw [StateT.run_bind] at h
  obtain ⟨⟨o, q⟩, htake, hgo⟩ := bind_eq_ok_iff.1 h
  obtain ⟨-, hnil, -⟩ | ⟨_, _, rfl, hcons, hts, rfl⟩ := take_eq_ok htake
  · simp [hrest] at hnil
  · cases hrest.symm.trans hcons
    exact ⟨hts, hgo⟩

/-- What accepting a character does. -/
theorem accept_eq_ok {r s : Reader} {c : Char} {taken : Bool}
    (h : (accept c).run r = .ok (taken, s)) :
    (taken = true ∧ ∃ ts, r.rest = .plain c :: ts ∧ ts.head? ≠ some .dangling ∧
        s = r.behind [.plain c] ts) ∨
      taken = false ∧ r.rest.head? ≠ some (.plain c) ∧ s = r := by
  by_cases hnext : r.rest.head? = some (.plain c)
  · have htake : (accept c).run r = (take >>= fun _ => pure true).run r := by
      simp [accept, nextIs, hnext]
    rw [htake, StateT.run_bind] at h
    obtain ⟨⟨o, t⟩, hrun, hvalue⟩ := bind_eq_ok_iff.1 h
    cases hvalue
    obtain ⟨rfl, hrest, -⟩ | ⟨t, ts, rfl, hrest, hts, hs⟩ := take_eq_ok hrun
    · simp [hrest] at hnext
    · rw [hrest, List.head?_cons, Option.some.injEq] at hnext
      subst hnext
      exact .inl ⟨rfl, ts, hrest, hts, hs⟩
  · rw [run_accept_of_ne hnext] at h
    cases h
    exact .inr ⟨rfl, hnext, rfl⟩

section TakeUpTo

variable {p : Char → Bool} {n m : Nat} {r s : Reader} {c : Char} {ts : List Token} {ds : List Char}

theorem run_takeUpTo_stop (h : ∀ c, r.rest.head? = some (.plain c) → p c = false) :
    (takeUpTo p n).run r = .ok ([], r) := by
  cases n with
  | zero => rfl
  | succ n =>
      rw [takeUpTo, run_bind_ok (run_peek r)]
      split
      · rename_i c hc
        rw [h c hc]
        rfl
      · rfl

theorem run_takeUpTo_cons (hc : p c = true) (h : r.rest = .plain c :: ts)
    (hts : ts.head? ≠ some .dangling)
    (hrun : (takeUpTo p n).run (r.behind [.plain c] ts) = .ok (ds, s)) :
    (takeUpTo p (n + 1)).run r = .ok (c :: ds, s) := by
  rw [takeUpTo, run_bind_ok (run_peek r), h]
  dsimp only [List.head?_cons]
  rw [if_pos hc, run_bind_ok (run_take h hts), run_bind_ok hrun]
  rfl

theorem takeUpTo_eq_ok (h : (takeUpTo p (n + 1)).run r = .ok (ds, s)) :
    (ds = [] ∧ s = r ∧ ∀ c, r.rest.head? = some (.plain c) → p c = false) ∨
      ∃ c ts ds', ds = c :: ds' ∧ p c = true ∧ r.rest = .plain c :: ts ∧
        ts.head? ≠ some .dangling ∧ (takeUpTo p n).run (r.behind [.plain c] ts) = .ok (ds', s) := by
  by_cases hstop : ∀ c, r.rest.head? = some (.plain c) → p c = false
  · rw [run_takeUpTo_stop hstop] at h
    cases h
    exact .inl ⟨rfl, rfl, hstop⟩
  · simp only [not_forall, Bool.not_eq_false] at hstop
    obtain ⟨c, hhead, hc⟩ := hstop
    rw [takeUpTo, run_bind_ok (run_peek r), hhead] at h
    dsimp only at h
    rw [if_pos hc, StateT.run_bind] at h
    obtain ⟨⟨o, t⟩, htake, h⟩ := bind_eq_ok_iff.1 h
    rw [StateT.run_bind] at h
    obtain ⟨⟨ds', t'⟩, hmore, h⟩ := bind_eq_ok_iff.1 h
    cases h
    obtain ⟨-, hrest, -⟩ | ⟨token, ts, -, hrest, hts, rfl⟩ := take_eq_ok htake
    · simp [hrest] at hhead
    · rw [hrest, List.head?_cons, Option.some.injEq] at hhead
      subst hhead
      exact .inr ⟨c, ts, ds', rfl, hc, hrest, hts, hmore⟩

theorem length_takeUpTo (h : (takeUpTo p n).run r = .ok (ds, s)) :
    ds.length + s.rest.length = r.rest.length := by
  induction n generalizing r ds with
  | zero =>
      cases h
      exact Nat.zero_add _
  | succ n ih =>
      obtain ⟨rfl, rfl, -⟩ | ⟨c, ts, ds', rfl, -, hrest, -, hmore⟩ := takeUpTo_eq_ok h
      · exact Nat.zero_add _
      · have hlength := ih hmore
        rw [Reader.behind_rest] at hlength
        rw [hrest, List.length_cons, List.length_cons, ← hlength, Nat.succ_add]

/-- Nothing more is taken where nothing is left or the count has not been reached. -/
theorem run_takeUpTo_of_le (h : (takeUpTo p n).run r = .ok (ds, s)) (hnm : n ≤ m)
    (hend : ds.length < n ∨ s.rest = []) : (takeUpTo p m).run r = .ok (ds, s) := by
  induction n generalizing m r ds with
  | zero =>
      cases h
      exact run_takeUpTo_stop (by simp [hend.resolve_left (Nat.not_lt_zero _)])
  | succ n ih =>
      obtain ⟨m, rfl⟩ := Nat.exists_eq_add_of_le' (Nat.one_le_of_lt hnm)
      obtain ⟨rfl, rfl, hstop⟩ | ⟨c, ts, ds', rfl, hc, hrest, hts, hmore⟩ := takeUpTo_eq_ok h
      · exact run_takeUpTo_stop hstop
      · refine run_takeUpTo_cons hc hrest hts (ih hmore (by omega) ?_)
        exact hend.imp_left Nat.lt_of_succ_lt_succ

end TakeUpTo

/-! ## Names -/

section Names

variable {r s : Reader} {ts : List Token}

/-- What a loop over a name does with the next token. -/
theorem nameLoop_eq_ok {terminator : Char} {what : String} {n : Nat} {before name : List Char}
    (h : (nameLoop terminator what (n + 1) before).run r = .ok (name, s)) :
    ∃ t ts, r.rest = t :: ts ∧ ts.head? ≠ some .dangling ∧
      if t.isPlain terminator then before ≠ [] ∧ name = before ∧ s = r.behind [t] ts
      else
        (nameLoop terminator what n (before ++ t.text)).run (r.behind [t] ts) = .ok (name, s) := by
  rw [nameLoop, StateT.run_bind] at h
  obtain ⟨⟨o, t⟩, htake, h⟩ := bind_eq_ok_iff.1 h
  obtain ⟨rfl, -, -⟩ | ⟨t, ts, rfl, hrest, hts, rfl⟩ := take_eq_ok htake
  · exact absurd h (refuses_ite (fun _ => refuses_fail _ _) (fun _ => refuses_fail _ _) _ _ _)
  · refine ⟨t, ts, hrest, hts, ?_⟩
    dsimp only at h
    split at h
    · rename_i hend
      rw [if_pos hend]
      split at h
      · exact absurd h (refuses_fail _ _ _ _ _)
      · cases h
        exact ⟨‹_›, rfl, rfl⟩
    · rename_i hmore
      rwa [if_neg hmore]

theorem run_nameLoop_end {terminator : Char} {what : String} {n : Nat} {name : List Char}
    (h : r.rest = .plain terminator :: ts) (hts : ts.head? ≠ some .dangling) (hname : name ≠ []) :
    (nameLoop terminator what (n + 1) name).run r =
      .ok (name, r.behind [.plain terminator] ts) := by
  have hend : (Token.plain terminator).isPlain terminator = true := beq_self_eq_true _
  rw [nameLoop, run_bind_ok (run_take h hts)]
  dsimp only
  rw [if_pos hend, if_neg hname]
  rfl

theorem run_nameLoop_cons {terminator : Char} {what : String} {n : Nat} {before : List Char}
    {t : Token} (h : r.rest = t :: ts) (hts : ts.head? ≠ some .dangling)
    (ht : t.isPlain terminator = false) :
    (nameLoop terminator what (n + 1) before).run r =
      (nameLoop terminator what n (before ++ t.text)).run (r.behind [t] ts) := by
  rw [nameLoop, run_bind_ok (run_take h hts)]
  dsimp only
  rw [ht, if_neg Bool.false_ne_true]

theorem mem_nameLoop {terminator : Char} {what : String} {n : Nat} {before name : List Char}
    (h : (nameLoop terminator what n before).run r = .ok (name, s)) :
    ∀ c ∈ before, c ∈ name := by
  induction n generalizing r before with
  | zero => cases h
  | succ n ih =>
      obtain ⟨t, ts, -, -, h⟩ := nameLoop_eq_ok h
      split at h
      · obtain ⟨-, rfl, -⟩ := h
        exact fun _ => id
      · exact fun c hc => ih h c (List.mem_append_left _ hc)

end Names

/-! ## Tokens that are left -/

/-- A step behind which no more tokens are left than before. -/
def Shrinks (p : Parse α) : Prop :=
  ∀ r a s, p.run r = .ok (a, s) → s.rest.length ≤ r.rest.length

namespace Shrinks

theorem pure (a : α) : Shrinks (Pure.pure a : Parse α) := by
  intro r b s h
  cases h
  exact Nat.le_refl _

theorem refused {p : Parse α} (h : Refuses p) : Shrinks p :=
  fun r a s hrun => absurd hrun (h r a s)

theorem bind {p : Parse α} {g : α → Parse β} (hp : Shrinks p) (hg : ∀ a, Shrinks (g a)) :
    Shrinks (p >>= g) := by
  intro r b s hrun
  rw [StateT.run_bind] at hrun
  obtain ⟨⟨a, t⟩, hfirst, hrun⟩ := bind_eq_ok_iff.1 hrun
  exact Nat.le_trans (hg a t b s hrun) (hp r a t hfirst)

theorem ite {c : Prop} [Decidable c] {p q : Parse α} (hp : c → Shrinks p) (hq : ¬ c → Shrinks q) :
    Shrinks (if c then p else q) := by
  split
  · exact hp ‹_›
  · exact hq ‹_›

end Shrinks

/-- Tokens that are bounded stay bounded. -/
theorem Copies.bounded {p q : Parse α} (h : Copies I O p q) (hq : Shrinks q) (bound : Nat) :
    Copies (fun r r' => I r r' ∧ r'.rest.length < bound)
      (fun a r r' => O a r r' ∧ r'.rest.length < bound) p q := by
  rintro r r' ⟨hr, hbound⟩ a s hrun
  obtain ⟨s', hrun', hs⟩ := h r r' hr a s hrun
  exact ⟨s', hrun', hs, Nat.lt_of_le_of_lt (hq r' a s' hrun') hbound⟩

theorem shrinks_takeUpTo (p : Char → Bool) (count : Nat) : Shrinks (takeUpTo p count) := by
  intro r ds s h
  have hlength := length_takeUpTo h
  omega

theorem shrinks_accept (c : Char) : Shrinks (accept c) := by
  intro r taken s h
  obtain ⟨-, ts, hrest, -, rfl⟩ | ⟨-, -, rfl⟩ := accept_eq_ok h
  · simp [hrest]
  · exact Nat.le_refl _

theorem shrinks_hexEscape (letter : Char) (count : Nat) : Shrinks (hexEscape letter count) :=
  (shrinks_takeUpTo _ _).bind fun _ => .ite (fun _ => .refused (refuses_fail _ _)) fun _ =>
    .ite (fun _ => .refused (refuses_fail _ _)) fun _ => .pure _

end FolderTag.Regex.Parse
