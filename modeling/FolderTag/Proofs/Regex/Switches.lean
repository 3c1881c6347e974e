import FolderTag.Proofs.Outcome
import FolderTag.Regex.Parser

/-! # Reading steps that ignore switches

Flags given beside a pattern do not change how its pieces are read: a step goes the same way, and
refuses the same patterns for the same causes, when more flags are switched on. -/

namespace FolderTag.Regex

/-- The reader with more flags switched on for the whole pattern. -/
def Reader.switch (r : Reader) (f : Flags) : Reader := { r with flags := r.flags.union f }

@[simp] theorem Reader.rest_switch (r : Reader) (f : Flags) : (r.switch f).rest = r.rest := rfl

@[simp] theorem Reader.fault?_switch (r : Reader) (f : Flags) :
    (r.switch f).fault? = r.fault? := rfl

theorem Flags.union_right_comm (a b c : Flags) : (a.union b).union c = (a.union c).union b := by
  simp only [Flags.union, Bool.or_right_comm]

namespace Parse

variable {α β : Type} {f : Flags}

/-- `q` does with the flags `f` switched on what `p` does without them. -/
def Alike (f : Flags) (p q : Parse α) : Prop :=
  ∀ r : Reader, q.run (r.switch f) = (p.run r).map fun (a, s) => (a, s.switch f)

namespace Alike

theorem pure (a : α) : Alike f (Pure.pure a : Parse α) (Pure.pure a) := fun _ => rfl

theorem throw (e : Error) : Alike f (MonadExcept.throw e : Parse α) (MonadExcept.throw e) :=
  fun _ => rfl

theorem bind {p q : Parse α} {g h : α → Parse β} (hp : Alike f p q)
    (hg : ∀ a, Alike f (g a) (h a)) : Alike f (p >>= g) (q >>= h) := by
  intro r
  rw [StateT.run_bind, StateT.run_bind, hp r]
  cases p.run r with
  | error e => rfl
  | ok x => exact hg x.1 x.2

theorem getBind {g h : Reader → Parse α} (hg : ∀ r : Reader, Alike f (g r) (h (r.switch f))) :
    Alike f (get >>= g) (get >>= h) := fun r => hg r r

/-- A step that looks at the reader, but not at its flags. -/
theorem look {g : Reader → Parse α} (hsame : ∀ r : Reader, g (r.switch f) = g r)
    (hg : ∀ r, Alike f (g r) (g r)) : Alike f (get >>= g) (get >>= g) :=
  .getBind fun r => by
    rw [hsame]
    exact hg r

theorem setBind (r : Reader) {p q : Parse α} (hp : Alike f p q) :
    Alike f (set r >>= fun _ => p) (set (r.switch f) >>= fun _ => q) := fun _ => hp r

theorem update {g : Reader → Reader} (hg : ∀ r : Reader, g (r.switch f) = (g r).switch f) :
    Alike f (modify g : Parse Unit) (modify g) := by
  intro r
  change Except.ok ((), g (r.switch f)) = .ok ((), (g r).switch f)
  rw [hg]

theorem ite {c : Prop} [Decidable c] {p q p' q' : Parse α} (hp : c → Alike f p q)
    (hq : ¬ c → Alike f p' q') : Alike f (if c then p else p') (if c then q else q') := by
  split
  · exact hp ‹_›
  · exact hq ‹_›

end Alike

/-- A reading step that goes the same way when the flags `f` are switched on. -/
abbrev Ignores (f : Flags) (p : Parse α) : Prop := Alike f p p

/-! ## Single tokens -/

theorem ignores_fail (cause : Cause) (offset : Nat) : Ignores f (fail cause offset : Parse α) :=
  .getBind fun _ => .throw _

theorem ignores_peek : Ignores f peek := .getBind fun _ => .pure _

theorem ignores_nextIs (c : Char) : Ignores f (nextIs c) :=
  .getBind fun _ => .pure _

theorem ignores_take : Ignores f take := by
  rintro ⟨rest, position, flags, widths, names, limit, conditions⟩
  cases rest with
  | nil => rfl
  | cons t ts =>
      by_cases hnext : ts.head? = some .dangling
      · simp [take, Reader.switch, hnext, failAt]
        rfl
      · simp [take, Reader.switch, hnext]
        rfl

theorem ignores_accept (c : Char) : Ignores f (accept c) :=
  (ignores_nextIs c).bind fun _ =>
    .ite (fun _ => ignores_take.bind fun _ => .pure true) fun _ => .pure false

theorem ignores_takeUpTo (p : Char → Bool) (count : Nat) : Ignores f (takeUpTo p count) := by
  induction count with
  | zero => exact .pure []
  | succ count ih =>
      refine ignores_peek.bind fun t => ?_
      cases t with
      | none => exact .pure []
      | some t =>
          cases t with
          | plain c =>
              exact .ite (fun _ => ignores_take.bind fun _ => ih.bind fun _ => .pure _)
                fun _ => .pure []
          | escaped c => exact .pure []
          | dangling => exact .pure []

theorem ignores_takeWhile (p : Char → Bool) : Ignores f (takeWhile p) :=
  .getBind fun _ => ignores_takeUpTo p _

/-! ## Names -/

theorem ignores_nameLoop (terminator : Char) (what : String) (fuel : Nat) (name : List Char) :
    Ignores f (nameLoop terminator what fuel name) := by
  induction fuel generalizing name with
  | zero => exact .throw _
  | succ fuel ih =>
      refine ignores_take.bind fun t => ?_
      cases t with
      | none => exact .ite (fun _ => ignores_fail _ _) fun _ => ignores_fail _ _
      | some t =>
          exact .ite (fun _ => .ite (fun _ => ignores_fail _ _) fun _ => .pure name) fun _ => ih _

theorem ignores_takeName (terminator : Char) (what : String) :
    Ignores f (takeName terminator what) :=
  .getBind fun _ => ignores_nameLoop _ _ _ _

theorem ignores_checkGroupName (name : List Char) (offset : Nat) :
    Ignores f (checkGroupName name offset) :=
  .ite (fun _ => ignores_fail _ _) fun _ => .pure ()

/-! ## Groups that have been opened -/

theorem ignores_groupCount : Ignores f groupCount := .getBind fun _ => .pure _

theorem ignores_isClosed (g : Nat) : Ignores f (isClosed g) :=
  .getBind fun _ => .pure _

theorem ignores_checkLookbehind (g : Nat) : Ignores f (checkLookbehind g) := by
  refine .look (fun _ => rfl) fun r => ?_
  cases r.lookbehindLimit with
  | none => exact .pure ()
  | some limit =>
      exact (ignores_isClosed g).bind fun _ =>
        .ite (fun _ => ignores_fail _ _) fun _ => .ite (fun _ => ignores_fail _ _) fun _ => .pure ()

theorem ignores_openGroup (name : Option String) : Ignores f (openGroup name) := by
  refine ignores_groupCount.bind fun g => ?_
  cases name with
  | none => exact (Alike.update fun _ => rfl).bind fun _ => .pure g
  | some n =>
      refine .look (fun _ => rfl) fun r => ?_
      cases r.names.lookup n with
      | none =>
        exact (Alike.update fun _ => rfl).bind fun _ => .pure g
      | some previous =>
        exact (ignores_fail _ _).bind fun _ => .pure g

theorem ignores_closeGroup (g : Nat) (w : Width) : Ignores f (closeGroup g w) :=
  .update fun _ => rfl

/-! ## Escapes -/

theorem ignores_hexEscape (letter : Char) (count : Nat) : Ignores f (hexEscape letter count) :=
  (ignores_takeUpTo _ _).bind fun _ =>
    .ite (fun _ => ignores_fail _ _) fun _ => .ite (fun _ => ignores_fail _ _) fun _ => .pure _

theorem ignores_nameEscape : Ignores f nameEscape :=
  (ignores_accept _).bind fun _ =>
    .ite (fun _ => ignores_fail _ _) fun _ => (ignores_takeName _ _).bind fun _ => ignores_fail _ _

theorem ignores_characterEscape (c : Char) : Ignores f (characterEscape c) :=
  .ite (fun _ => ignores_hexEscape _ _) fun _ =>
    .ite (fun _ => ignores_hexEscape _ _) fun _ =>
      .ite (fun _ => ignores_hexEscape _ _) fun _ =>
        .ite (fun _ => ignores_nameEscape) fun _ =>
          .ite (fun _ => ignores_fail _ _) fun _ => .pure _

theorem ignores_setEscape (c : Char) : Ignores f (setEscape c) := by
  rw [setEscape]
  cases controlEscape? c with
  | some n => exact .pure _
  | none =>
      cases classEscape? c with
      | some item => exact .pure item
      | none =>
          exact .ite
            (fun _ => (ignores_takeUpTo _ _).bind fun _ =>
              .ite (fun _ => ignores_fail _ _) fun _ => .pure _)
            fun _ => (ignores_characterEscape c).bind fun _ => .pure _

theorem ignores_groupReference (g size : Nat) : Ignores f (groupReference g size) :=
  ignores_groupCount.bind fun _ =>
    .ite
      (fun _ => (ignores_isClosed g).bind fun _ =>
        .ite (fun _ => ignores_fail _ _) fun _ =>
          (ignores_checkLookbehind g).bind fun _ => .pure _)
      fun _ => ignores_fail _ _

theorem ignores_digitEscape (c : Char) : Ignores f (digitEscape c) := by
  refine (ignores_takeUpTo _ _).bind fun ds => ?_
  match ds with
  | [] | _ :: _ :: _ => exact ignores_groupReference _ _
  | [d] =>
      refine .ite (fun _ => (ignores_takeUpTo _ _).bind fun es => ?_) fun _ =>
        ignores_groupReference (numberIn 10 [c, d]) 3
      match es with
      | [] | _ :: _ :: _ => exact ignores_groupReference _ _
      | [e] => exact .ite (fun _ => ignores_fail _ _) fun _ => .pure _

theorem ignores_itemEscape (c : Char) : Ignores f (itemEscape c) := by
  rw [itemEscape]
  cases anchorEscape? c with
  | some a => exact .pure _
  | none =>
      cases classEscape? c with
      | some item => exact .pure _
      | none =>
          cases controlEscape? c with
          | some n => exact .pure _
          | none =>
              exact .ite (fun _ => (ignores_takeUpTo _ _).bind fun _ => .pure _) fun _ =>
                .ite (fun _ => ignores_digitEscape c) fun _ =>
                  (ignores_characterEscape c).bind fun _ => .pure _

/-! ## Sets -/

theorem ignores_setRange (this that : Token) (low high : List SetItem) :
    Ignores f (setRange this that low high) := by
  unfold setRange
  split
  · exact .ite (fun _ => ignores_fail _ _) fun _ => .pure _
  · exact ignores_fail _ _

section Sets

variable {escapes : Escapes} (hmembers : ∀ c, Ignores f (escapes.members c))

include hmembers

theorem ignores_setMembers (t : Token) : Ignores f (setMembers escapes t) := by
  cases t with
  | plain c => exact .pure _
  | escaped c => exact hmembers c
  | dangling => exact .pure _

theorem ignores_setBehind (start : Nat) {more : List SetItem → Parse (List SetItem)}
    (hmore : ∀ items, Ignores f (more items)) (items : List SetItem) (this : Token)
    (low : List SetItem) : Ignores f (setBehind escapes start more items this low) := by
  refine (ignores_accept '-').bind fun _ => .ite (fun _ => ignores_take.bind fun that => ?_)
    fun _ => hmore _
  cases that with
  | none => exact .throw _
  | some that =>
      exact .ite (fun _ => .pure _) fun _ => (ignores_setMembers hmembers that).bind fun high =>
        (ignores_setRange this that low high).bind fun _ => hmore _

theorem ignores_setItems (start fuel : Nat) (items : List SetItem) :
    Ignores f (setItems escapes start fuel items) := by
  induction fuel generalizing items with
  | zero => exact .throw _
  | succ fuel ih =>
      refine ignores_take.bind fun this => ?_
      cases this with
      | none => exact .throw _
      | some this =>
          exact .ite (fun _ => .pure _) fun _ => (ignores_setMembers hmembers this).bind fun low =>
            ignores_setBehind hmembers start ih items this low

theorem ignores_setNode (start : Nat) : Ignores f (setNode escapes start) :=
  (ignores_accept '^').bind fun _ => .look (fun _ => rfl) fun _ =>
    (ignores_setItems hmembers start _ _).bind fun _ => .pure _

end Sets

/-! ## Repetitions -/

theorem ignores_digitBound (ds : List Char) : Ignores f (digitBound ds) :=
  .ite (fun _ => .pure _) fun _ => .ite (fun _ => .throw _) fun _ => .pure _

theorem ignores_digitBounds (start : Nat) (low high : List Char) :
    Ignores f (digitBounds start low high) := by
  refine (ignores_digitBound low).bind fun low => (ignores_digitBound high).bind fun high => ?_
  cases high with
  | none => exact .pure _
  | some h => exact .ite (fun _ => .throw _) fun _ => .pure _

theorem ignores_braceBounds : Ignores f braceBounds := by
  refine (ignores_nextIs _).bind fun _ => .ite (fun _ => .pure _) fun _ => .getBind fun before =>
    (ignores_takeWhile _).bind fun low => (ignores_accept _).bind fun _ => ?_
  -- The upper bound is read only behind a comma; what follows it is the same.
  have hclose (high : List Char) : Alike f
      (accept '\x7d' >>= fun closed =>
        if closed then digitBounds before.position low high
        else set before >>= fun _ => pure Bounds.literalBrace)
      (accept '\x7d' >>= fun closed =>
        if closed then digitBounds before.position low high
        else set (before.switch f) >>= fun _ => pure Bounds.literalBrace) :=
    (ignores_accept _).bind fun _ =>
      .ite (fun _ => ignores_digitBounds _ _ _) fun _ => .setBind before (.pure _)
  exact .ite (fun _ => (ignores_takeWhile _).bind hclose) fun _ => (Alike.pure _).bind hclose

theorem ignores_boundsFor (c : Char) : Ignores f (boundsFor c) :=
  .ite (fun _ => .pure _) fun _ =>
    .ite (fun _ => .pure _) fun _ => .ite (fun _ => .pure _) fun _ => ignores_braceBounds

theorem ignores_repeatLast (mark low : Nat) (high : Option Nat) (done : List Node) :
    Ignores f (repeatLast mark low high done) := by
  unfold repeatLast
  split
  · exact .throw _
  · exact .throw _
  · exact .throw _
  · exact (ignores_accept '?').bind fun _ => .ite (fun _ => .pure _) fun _ =>
      (ignores_accept '+').bind fun _ => .ite (fun _ => .pure _) fun _ => .pure _

/-! ## Inline flags -/

theorem ignores_addFlag (on : Flags) (letter : FlagLetter) : Ignores f (addFlag on letter) := by
  cases letter with
  | locale => exact ignores_fail _ _
  | switch g => exact .ite (fun _ => ignores_fail _ _) fun _ => .pure _

theorem ignores_refuseFlag (otherwise : Cause) (t : Token) :
    Ignores f (refuseFlag otherwise t : Parse α) := by
  cases t with
  | plain c => exact ignores_fail _ _
  | escaped c => exact ignores_fail _ _
  | dangling => exact ignores_fail _ _

theorem ignores_flagsOn (fuel : Nat) (on : Flags) (letter : FlagLetter) :
    Ignores f (flagsOn fuel on letter) := by
  induction fuel generalizing on letter with
  | zero => exact .throw _
  | succ fuel ih =>
      refine (ignores_addFlag on letter).bind fun on => ignores_take.bind fun t => ?_
      cases t with
      | none => exact ignores_fail _ _
      | some t =>
          cases t with
          | escaped _ => exact ignores_refuseFlag _ _
          | dangling => exact ignores_refuseFlag _ _
          | plain c =>
              refine .ite (fun _ => .pure _) fun _ => ?_
              cases FlagLetter.ofChar? c with
              | none => exact ignores_refuseFlag _ _
              | some next => exact ih on next

theorem ignores_flagsOff (fuel : Nat) (off : Flags) (letter : FlagLetter) :
    Ignores f (flagsOff fuel off letter) := by
  induction fuel generalizing off letter with
  | zero => exact .throw _
  | succ fuel ih =>
      cases letter with
      | locale => exact ignores_fail _ _
      | switch g =>
          refine .ite (fun _ => ignores_fail _ _) fun _ => ignores_take.bind fun t => ?_
          cases t with
          | none => exact ignores_fail _ _
          | some t =>
              cases t with
              | escaped _ => exact ignores_refuseFlag _ _
              | dangling => exact ignores_refuseFlag _ _
              | plain c =>
                  refine .ite (fun _ => .pure _) fun _ => ?_
                  cases FlagLetter.ofChar? c with
                  | none => exact ignores_refuseFlag _ _
                  | some next => exact ih _ next

theorem ignores_flagsBehindMinus (fuel : Nat) : Ignores f (flagsBehindMinus fuel) := by
  refine ignores_take.bind fun t => ?_
  cases t with
  | none => exact ignores_fail _ _
  | some t =>
      cases t with
      | escaped _ => exact ignores_refuseFlag _ _
      | dangling => exact ignores_refuseFlag _ _
      | plain c =>
          dsimp only
          cases FlagLetter.ofChar? c with
          | none => exact ignores_refuseFlag _ _
          | some letter => exact ignores_flagsOff _ _ letter

theorem ignores_inlineFlagsBehind (fuel : Nat) (on : Flags) (mark : Char) :
    Ignores f (inlineFlagsBehind fuel on mark) := by
  have hunion (r : Reader) : (r.flags.union f).union on = (r.flags.union on).union f :=
    Flags.union_right_comm _ _ _
  refine .ite (fun _ => (Alike.update fun r => ?_).bind fun _ => .pure _) fun _ =>
    .ite (fun _ => ignores_fail _ _) fun _ => ?_
  · simp only [Reader.switch, hunion]
  · have hoff (off : Flags) : Ignores f
        (if off.template then fail .globalFlagOff 1
          else if on.meets off then fail .flagOnAndOff 1
          else pure (some (on, off))) :=
      .ite (fun _ => ignores_fail _ _) fun _ => .ite (fun _ => ignores_fail _ _) fun _ => .pure _
    exact .ite (fun _ => (ignores_flagsBehindMinus fuel).bind hoff)
      fun _ => (Alike.pure _).bind hoff

theorem ignores_inlineFlags (c : Char) : Ignores f (inlineFlags c) := by
  refine .look (fun _ => rfl) fun r => ?_
  cases FlagLetter.ofChar? c with
  | none => exact ignores_inlineFlagsBehind _ _ _
  | some letter =>
      exact (ignores_flagsOn _ _ letter).bind fun _ => ignores_inlineFlagsBehind _ _ _

/-! ## Groups -/

theorem ignores_skipComment (start fuel : Nat) : Ignores f (skipComment start fuel) := by
  induction fuel with
  | zero => exact .throw _
  | succ fuel ih =>
      refine ignores_take.bind fun t => ?_
      cases t with
      | none => exact .throw _
      | some t => exact .ite (fun _ => .pure ()) fun _ => ih

theorem ignores_namedGroup (name : List Char) : Ignores f (namedGroup name) := by
  refine .look (fun _ => rfl) fun r => ?_
  cases r.names.lookup (String.ofList name) with
  | none => exact ignores_fail _ _
  | some g => exact .pure g

theorem ignores_numberedGroup (name : List Char) : Ignores f (numberedGroup name) := by
  unfold numberedGroup
  split
  · exact ignores_fail _ _
  · refine .ite (fun _ => ignores_fail _ _) fun _ =>
      (Alike.update fun r => ?_).bind fun _ => .pure _
    rw [apply_ite (Reader.switch · f)]
    rfl
  · exact ignores_fail _ _

theorem ignores_conditionGroup : Ignores f conditionGroup := by
  refine (ignores_takeName _ _).bind fun name => ?_
  have hgroup (g : Nat) : Ignores f (checkLookbehind g >>= fun _ => pure g) :=
    (ignores_checkLookbehind g).bind fun _ => .pure g
  exact .ite (fun _ => (ignores_namedGroup name).bind hgroup) fun _ =>
    (ignores_numberedGroup name).bind hgroup

theorem ignores_namedOpening : Ignores f namedOpening := by
  refine (ignores_accept _).bind fun _ => .ite (fun _ => ?_) fun _ =>
    (ignores_accept _).bind fun _ => .ite (fun _ => ?_) fun _ => ignores_take.bind fun t => ?_
  · exact (ignores_takeName _ _).bind fun _ => (ignores_checkGroupName _ _).bind fun _ => .pure _
  · exact (ignores_takeName _ _).bind fun name => (ignores_checkGroupName _ _).bind fun _ =>
      (ignores_namedGroup name).bind fun g => (ignores_isClosed g).bind fun _ =>
        .ite (fun _ => ignores_fail _ _) fun _ => (ignores_checkLookbehind g).bind fun _ => .pure _
  · cases t with
    | none => exact ignores_fail _ _
    | some t => exact ignores_fail _ _

theorem ignores_lookbehindOpening : Ignores f lookbehindOpening := by
  refine ignores_take.bind fun t => ?_
  cases t with
  | none => exact ignores_fail _ _
  | some t =>
      exact .ite (fun _ => .pure _) fun _ => .ite (fun _ => .pure _) fun _ => ignores_fail _ _

theorem ignores_groupOpening (start : Nat) : Ignores f (groupOpening start) := by
  refine (ignores_accept _).bind fun _ => .ite (fun _ => .pure _) fun _ =>
    ignores_take.bind fun t => ?_
  cases t with
  | none => exact ignores_fail _ _
  | some t =>
      cases t with
      | escaped _ => exact ignores_fail _ _
      | dangling => exact ignores_fail _ _
      | plain c =>
          refine .ite (fun _ => ignores_namedOpening) fun _ => .ite (fun _ => .pure _) fun _ =>
            .ite (fun _ => .look (fun _ => rfl) fun _ => (ignores_skipComment _ _).bind fun _ =>
              .pure _) fun _ =>
            .ite (fun _ => .pure _) fun _ => .ite (fun _ => .pure _) fun _ =>
            .ite (fun _ => ignores_lookbehindOpening) fun _ =>
            .ite (fun _ => ignores_conditionGroup.bind fun _ => .pure _) fun _ =>
            .ite (fun _ => .pure _) fun _ =>
            .ite (fun _ => (ignores_inlineFlags c).bind fun flags => ?_) fun _ => ignores_fail _ _
          cases flags with
          | none => exact .pure _
          | some flags => exact .pure _

theorem ignores_closeParenthesis (start : Nat) : Ignores f (closeParenthesis start) :=
  (ignores_accept ')').bind fun _ => .ite (fun _ => .throw _) fun _ => .pure ()

theorem ignores_skipLine (fuel : Nat) : Ignores f (skipLine fuel) := by
  induction fuel with
  | zero => exact .throw _
  | succ fuel ih =>
      refine ignores_take.bind fun t => ?_
      cases t with
      | none => exact .pure ()
      | some t => exact .ite (fun _ => .pure ()) fun _ => ih

end Parse

end FolderTag.Regex
