import FolderTag.Proofs.Regex.Switches
import Mathlib.Data.List.Forall2

/-! # Two readings in step

A pattern is read twice, with escapes and flags of one's own each time. When the escapes are read as
nodes that belong together, the whole pattern is. -/

namespace FolderTag.Regex

open Parse List

variable {α β γ δ : Type} {f : Flags} {strict : Prop}

/-- Where `p` has a value, `q` has one that belongs to it with the flags `f` switched on. Where the
reading is `strict`, `q` is also refused as `p` is. -/
def Parse.Tracks (strict : Prop) (f : Flags) (Q : α → β → Prop) (p : Parse α) (q : Parse β) :
    Prop :=
  ∀ r : Reader,
    (∀ a s, p.run r = .ok (a, s) → ∃ b, q.run (r.switch f) = .ok (b, s.switch f) ∧ Q a b) ∧
    (strict → ∀ e, p.run r = .error e → q.run (r.switch f) = .error e)

namespace Parse.Tracks

variable {Q : α → β → Prop} {Q' : γ → δ → Prop}

theorem pure {a : α} {b : β} (h : Q a b) :
    Tracks strict f Q (Pure.pure a : Parse α) (Pure.pure b) := by
  refine fun r => ⟨?_, nofun⟩
  rintro a' s hrun
  cases hrun
  exact ⟨b, rfl, h⟩

theorem of_alike {p q : Parse α} (h : Alike f p q) : Tracks strict f Eq p q := by
  refine fun r => ⟨fun a s hrun => ⟨a, ?_, rfl⟩, fun _ e hrun => ?_⟩
  · rw [h r, hrun]
    rfl
  · rw [h r, hrun]
    rfl

theorem mono {Q'' : α → β → Prop} {p : Parse α} {q : Parse β} (h : Tracks strict f Q p q)
    (hQ : ∀ a b, Q a b → Q'' a b) : Tracks strict f Q'' p q := by
  refine fun r => ⟨fun a s hrun => ?_, (h r).2⟩
  obtain ⟨b, hq, hab⟩ := (h r).1 a s hrun
  exact ⟨b, hq, hQ a b hab⟩

theorem throw (e : Error) :
    Tracks strict f Q (MonadExcept.throw e : Parse α) (MonadExcept.throw e : Parse β) := by
  refine fun r => ⟨nofun, fun _ e' hrun => ?_⟩
  cases hrun
  rfl

theorem fail (cause : Cause) (offset : Nat) :
    Tracks strict f Q (Parse.fail cause offset : Parse α) (Parse.fail cause offset : Parse β) :=
  fun r => throw (.malformed cause (some (r.position - offset))) r

/-- Where the first reading is always refused, the second may do anything. -/
theorem refused (cause : Cause) (offset : Nat) (q : Parse β) :
    Tracks False f Q (Parse.fail cause offset : Parse α) q := fun _ => ⟨nofun, False.elim⟩

theorem bind {p : Parse α} {q : Parse β} {g : α → Parse γ} {h : β → Parse δ}
    (hp : Tracks strict f Q p q) (hg : ∀ a b, Q a b → Tracks strict f Q' (g a) (h b)) :
    Tracks strict f Q' (p >>= g) (q >>= h) := by
  intro r
  obtain ⟨hok, herror⟩ := hp r
  rw [StateT.run_bind, StateT.run_bind]
  cases hrun : p.run r with
  | error e =>
      refine ⟨nofun, fun hstrict e' he => ?_⟩
      cases he
      rw [herror hstrict e hrun]
      rfl
  | ok x =>
      obtain ⟨a, s⟩ := x
      obtain ⟨b, hq, hab⟩ := hok a s hrun
      rw [hq]
      exact hg a b hab s

/-- A first step that both have in common. -/
theorem after {p q : Parse α} {g : α → Parse γ} {h : α → Parse δ} (hp : Alike f p q)
    (hg : ∀ a, Tracks strict f Q' (g a) (h a)) : Tracks strict f Q' (p >>= g) (q >>= h) := by
  refine (of_alike hp).bind ?_
  rintro a _ rfl
  exact hg a

theorem getBind {g : Reader → Parse α} {h : Reader → Parse β}
    (hg : ∀ r : Reader, Tracks strict f Q (g r) (h (r.switch f))) :
    Tracks strict f Q (get >>= g) (get >>= h) := fun r => hg r r

theorem ite {c : Prop} [Decidable c] {p p' : Parse α} {q q' : Parse β}
    (hp : c → Tracks strict f Q p q) (hq : ¬ c → Tracks strict f Q p' q') :
    Tracks strict f Q (if c then p else p') (if c then q else q') := by
  split
  · exact hp ‹_›
  · exact hq ‹_›

end Parse.Tracks

/-- Escapes and nodes that belong together, in the first reading and in the second. -/
structure Parallel (strict : Prop) (f : Flags) (Q : Node → Node → Prop) (first second : Escapes) :
    Prop where
  item : ∀ c, Tracks strict f Q (first.item c) (second.item c)
  set : ∀ start, Tracks strict f Q (setNode first start) (setNode second start)
  repeatLast : ∀ {mark low high done done'}, Forall₂ Q done done' →
    Tracks strict f (Forall₂ Q) (repeatLast mark low high done) (repeatLast mark low high done')
  same : ∀ n, Q n n
  width : ∀ {widths n n'}, Q n n' → n.width widths = n'.width widths
  sequence : ∀ {ns ns'}, Forall₂ Q ns ns' → Q (.sequence ns) (.sequence ns')
  choice : ∀ {n n' ns ns'}, Q n n' → Forall₂ Q ns ns' → Q (.choice n ns) (.choice n' ns')
  group : ∀ {index on off n n'}, Q n n' → Q (.group index on off n) (.group index on off n')
  atomic : ∀ {n n'}, Q n n' → Q (.atomic n) (.atomic n')
  look : ∀ {behind negated n n'}, Q n n' → Q (.look behind negated n) (.look behind negated n')
  cond : ∀ {group n n' m m'}, Q n n' → Q m m' → Q (.cond group n m) (.cond group n' m')

/-- Both readings go in step while they have `fuel`. -/
structure InStep (strict : Prop) (f : Flags) (Q : Node → Node → Prop) (first second : Escapes)
    (fuel : Nat) : Prop where
  choices : ∀ top verbose,
    Tracks strict f Q (choices first fuel top verbose) (choices second fuel top verbose)
  otherChoices : ∀ top verbose, Tracks strict f (Forall₂ Q) (otherChoices first fuel top verbose)
    (otherChoices second fuel top verbose)
  elseBranch : ∀ verbose,
    Tracks strict f Q (elseBranch first fuel verbose) (elseBranch second fuel verbose)
  items : ∀ begins verbose {done done'}, Forall₂ Q done done' →
    Tracks strict f Q (items first fuel begins verbose done)
      (items second fuel begins verbose done')

variable {Q : Node → Node → Prop} {first second : Escapes} {fuel : Nat}

theorem Reader.verbose_switch (hverbose : f.verbose = false) (r : Reader) :
    (r.switch f).flags.verbose = r.flags.verbose := by
  simp [Reader.switch, Flags.union, hverbose]

theorem tracks_choices (h : Parallel strict f Q first second)
    (ih : InStep strict f Q first second fuel) (top verbose : Bool) :
    Tracks strict f Q (choices first (fuel + 1) top verbose)
      (choices second (fuel + 1) top verbose) := by
  rw [choices, choices]
  exact (ih.items top verbose .nil).bind fun _ _ hfirst =>
    (ih.otherChoices top verbose).bind fun _ _ hothers => .pure (h.choice hfirst hothers)

theorem tracks_otherChoices (hverbose : f.verbose = false)
    (ih : InStep strict f Q first second fuel) (top verbose : Bool) :
    Tracks strict f (Forall₂ Q) (otherChoices first (fuel + 1) top verbose)
      (otherChoices second (fuel + 1) top verbose) := by
  rw [otherChoices, otherChoices]
  refine .after (ignores_accept _) fun _ => .ite (fun _ => .getBind fun r => ?_) fun _ => .pure .nil
  rw [Reader.verbose_switch hverbose]
  exact (ih.items _ _ .nil).bind fun _ _ hnode =>
    (ih.otherChoices _ _).bind fun _ _ hothers => .pure (.cons hnode hothers)

theorem tracks_elseBranch (h : Parallel strict f Q first second)
    (ih : InStep strict f Q first second fuel) (verbose : Bool) :
    Tracks strict f Q (elseBranch first (fuel + 1) verbose)
      (elseBranch second (fuel + 1) verbose) := by
  rw [elseBranch, elseBranch]
  exact .after (ignores_accept _) fun _ => .ite
    (fun _ => (ih.items _ _ .nil).bind fun _ _ hno => .after (ignores_nextIs _) fun _ =>
      .ite (fun _ => .fail _ _) fun _ => .pure hno)
    fun _ => .pure (h.same _)

theorem ignores_enterLookbehind (isOutermost : Bool) : Ignores f (enterLookbehind isOutermost) :=
  .ite (fun _ => .update fun _ => rfl) fun _ => .pure ()

theorem ignores_leaveLookbehind (isOutermost : Bool) : Ignores f (leaveLookbehind isOutermost) :=
  .ite (fun _ => .update fun _ => rfl) fun _ => .pure ()

/-- Groups whose contents belong together do. -/
theorem tracks_groupItem (h : Parallel strict f Q first second) {body body' : Bool → Parse Node}
    {branches branches' : Nat → Parse Node}
    (hbody : ∀ verbose, Tracks strict f Q (body verbose) (body' verbose))
    (hbranches : ∀ g, Tracks strict f Q (branches g) (branches' g)) (verbose : Bool) (start : Nat)
    (opening : Opening) :
    Tracks strict f (Option.Rel Q) (groupItem body branches verbose start opening)
      (groupItem body' branches' verbose start opening) := by
  cases opening with
  | comment => exact .pure .none
  | globalFlags => exact .pure .none
  | reference g => exact .pure (.some (h.same _))
  | capture name =>
      refine .after (ignores_openGroup name) fun g => (hbody verbose).bind fun n n' hn =>
        .after (ignores_closeParenthesis start) fun _ => .getBind fun r => ?_
      have hwidth : n.width r.widths = n'.width (r.switch f).widths := h.width hn
      rw [hwidth]
      exact .after (ignores_closeGroup _ _) fun _ => .pure (.some (h.group hn))
  | plain on off =>
      exact (hbody _).bind fun _ _ hn => .after (ignores_closeParenthesis start) fun _ =>
        .pure (.some (h.group hn))
  | atomic =>
      exact (hbody _).bind fun _ _ hn => .after (ignores_closeParenthesis start) fun _ =>
        .pure (.some (h.atomic hn))
  | look behind negated =>
      exact .getBind fun r => .after (ignores_enterLookbehind _) fun _ =>
        (hbody _).bind fun _ _ hn =>
        .after (ignores_leaveLookbehind _) fun _ => .after (ignores_closeParenthesis start) fun _ =>
          .pure (.some (h.look hn))
  | condition g =>
      exact (hbranches g).bind fun _ _ hn => .after (ignores_closeParenthesis start) fun _ =>
        .pure (.some hn)

theorem tracks_items (h : Parallel strict f Q first second) (hverbose : f.verbose = false)
    (ih : InStep strict f Q first second fuel) (begins verbose : Bool) {done done' : List Node}
    (hdone : Forall₂ Q done done') :
    Tracks strict f Q (items first (fuel + 1) begins verbose done)
      (items second (fuel + 1) begins verbose done') := by
  rw [items, items]
  refine .after ignores_peek fun t => ?_
  have hend : Tracks strict f Q (pure (Node.sequence done.reverse) : Parse Node)
      (pure (Node.sequence done'.reverse)) := .pure (h.sequence (rel_reverse hdone))
  have hitem (n : Node) : Tracks strict f Q (items first fuel begins verbose (n :: done))
      (items second fuel begins verbose (n :: done')) := ih.items _ _ (.cons (h.same n) hdone)
  match t with
  | none => exact hend
  | some .dangling => exact .fail _ _
  | some (.escaped c) =>
      exact .after ignores_take fun _ => (h.item c).bind fun _ _ hn => ih.items _ _ (.cons hn hdone)
  | some (.plain c) =>
      refine .ite (fun _ => hend) fun _ => .getBind fun r => .after ignores_take fun _ => ?_
      refine .ite (fun _ => ih.items _ _ hdone) fun _ => ?_
      refine .ite
        (fun _ => .getBind fun _ => .after (ignores_skipLine _) fun _ => ih.items _ _ hdone)
        fun _ => ?_
      refine .ite (fun _ => (h.set _).bind fun _ _ hn => ih.items _ _ (.cons hn hdone)) fun _ => ?_
      refine .ite (fun _ => .after (ignores_boundsFor c) fun bounds => ?_) fun _ => ?_
      · cases bounds with
        | literalBrace => exact hitem _
        | between low high => exact (h.repeatLast hdone).bind fun _ _ hns => ih.items _ _ hns
      refine .ite (fun _ => hitem _) fun _ => .ite (fun _ => hitem _) fun _ =>
        .ite (fun _ => hitem _) fun _ => .ite (fun _ => ?_) fun _ => hitem _
      refine .after (ignores_groupOpening _) fun opening => ?_
      have hempty : done.isEmpty = done'.isEmpty := by cases hdone <;> rfl
      have hcond (g : Nat) : Tracks strict f Q
          (items first fuel false verbose [] >>= fun yes =>
            elseBranch first fuel verbose >>= fun no => pure (Node.cond g yes no))
          (items second fuel false verbose [] >>= fun yes =>
            elseBranch second fuel verbose >>= fun no => pure (Node.cond g yes no)) :=
        (ih.items _ _ .nil).bind fun _ _ hyes =>
          (ih.elseBranch _).bind fun _ _ hno => .pure (h.cond hyes hno)
      have hgroup := tracks_groupItem h (ih.choices false) hcond verbose r.position opening
      have hbehind {item? item?' : Option Node} (hitem? : Option.Rel Q item? item?') :
          Tracks strict f Q (items first fuel begins verbose (item?.toList ++ done))
            (items second fuel begins verbose (item?'.toList ++ done')) := by
        cases hitem? with
        | none => exact ih.items _ _ hdone
        | some hn => exact ih.items _ _ (.cons hn hdone)
      cases opening with
      | globalFlags =>
          simp only [hempty]
          refine .ite (fun _ => .throw _) fun _ => .getBind fun r => ?_
          rw [Reader.verbose_switch hverbose]
          exact ih.items _ _ hdone
      | _ => exact hgroup.bind fun _ _ => hbehind

theorem inStep (h : Parallel strict f Q first second) (hverbose : f.verbose = false) (fuel : Nat) :
    InStep strict f Q first second fuel := by
  induction fuel with
  | zero =>
      exact {
        choices := fun _ _ => by
          rw [choices, choices]
          exact .throw _
        otherChoices := fun _ _ => by
          rw [otherChoices, otherChoices]
          exact .throw _
        elseBranch := fun _ => by
          rw [elseBranch, elseBranch]
          exact .throw _
        items := fun _ _ _ _ _ => by
          rw [items, items]
          exact .throw _ }
  | succ fuel ih =>
      exact {
        choices := tracks_choices h ih
        otherChoices := tracks_otherChoices hverbose ih
        elseBranch := tracks_elseBranch h ih
        items := fun begins verbose _ _ => tracks_items h hverbose ih begins verbose }

/-- Flags that say only how characters are compared. -/
structure Flags.IsSilent (f : Flags) : Prop where
  template : f.template = false
  unicode : f.unicode = false
  verbose : f.verbose = false
  ascii : f.ascii = false

theorem settleAlphabet_union (hf : f.IsSilent) (flags : Flags) :
    settleAlphabet (flags.union f) = (settleAlphabet flags).map (·.union f) := by
  cases hascii : flags.ascii with
  | false => simp [settleAlphabet, Flags.union, hascii, hf.ascii, Except.map]
  | true =>
      cases hunicode : flags.unicode with
      | false =>
          simp [settleAlphabet, Flags.union, hascii, hunicode, hf.ascii, hf.unicode, Except.map]
      | true =>
          simp [settleAlphabet, Flags.union, hascii, hunicode, hf.ascii, hf.unicode, Except.map]

theorem conclude_switch (hf : f.IsSilent) (node node' : Node) (r : Reader) :
    conclude node' (r.switch f) =
      (conclude node r).map fun p => { p with node := node', flags := p.flags.union f } := by
  have hflags : settleAlphabet (r.switch f).flags = (settleAlphabet r.flags).map (·.union f) :=
    settleAlphabet_union hf r.flags
  rw [conclude, conclude, hflags, Reader.fault?_switch]
  cases settleAlphabet r.flags with
  | error e => rfl
  | ok flags =>
      cases r.fault? with
      | some e => rfl
      | none => rfl

theorem node_of_conclude {node : Node} {r : Reader} {p : Parsed} (h : conclude node r = .ok p) :
    p.node = node := by
  obtain ⟨flags, -, h⟩ := bind_eq_ok_iff.1 h
  split at h
  · cases h
  · cases h
    rfl

theorem readAll_tracks (h : Parallel strict f Q first second) (hf : f.IsSilent) (r : Reader) :
    (∀ p, readAll first r = .ok p → ∃ node,
      readAll second (r.switch f) = .ok { p with node, flags := p.flags.union f } ∧
        Q p.node node) ∧
    (strict → ∀ e, readAll first r = .error e → readAll second (r.switch f) = .error e) := by
  rw [readAll, readAll, Reader.rest_switch, Reader.verbose_switch hf.verbose]
  by_cases hdangling : r.rest.head? = some .dangling
  · rw [if_pos hdangling, if_pos hdangling]
    exact ⟨nofun, fun _ e he => he ▸ rfl⟩
  · rw [if_neg hdangling, if_neg hdangling]
    obtain ⟨hok, herror⟩ :=
      (inStep h hf.verbose (3 * r.rest.length + 3)).choices true r.flags.verbose r
    cases hrun : (choices first (3 * r.rest.length + 3) true r.flags.verbose).run r with
    | error e =>
        refine ⟨nofun, fun hstrict e' he => ?_⟩
        cases he
        rw [herror hstrict e hrun]
        rfl
    | ok x =>
        obtain ⟨node, s⟩ := x
        obtain ⟨node', hrun', hQ⟩ := hok node s hrun
        rw [hrun', ok_bind, ok_bind, conclude_switch hf node]
        refine ⟨fun p hp => ⟨node', ?_, node_of_conclude hp ▸ hQ⟩, fun _ e he => ?_⟩
        · rw [hp]
          rfl
        · rw [he]
          rfl

/-- Patterns are read as nodes that belong together, under flags of which more are switched on the
second time. -/
theorem parse_tracks (h : Parallel strict f Q first second) (hf : f.IsSilent) (pattern : List Char)
    (flags : Flags) :
    (∀ p, parse first pattern flags = .ok p → ∃ node, parse second pattern (flags.union f) =
      .ok { p with node, flags := p.flags.union f } ∧ Q p.node node) ∧
    (strict → ∀ e, parse first pattern flags = .error e →
      parse second pattern (flags.union f) = .error e) :=
  readAll_tracks h hf (.start pattern flags)

end FolderTag.Regex
