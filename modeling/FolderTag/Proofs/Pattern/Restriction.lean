import FolderTag.Proofs.Pattern.Members

/-! # Limiting a pattern to ASCII

Where the restriction to ASCII finds the shorthand classes inside of sets and outside of them as
they are read, what it writes can be compiled whenever the pattern can, and matches as the pattern
does in the ASCII reading. -/

namespace FolderTag.Pattern

open FolderTag.Regex FolderTag.Regex.Parse

variable {α : Type} {verbose inSet : Bool} {slack : Nat} {ts : List Token} {c : Char}
variable {r r' : Reader} {fuel : Nat}

/-! ## Wrapped escapes -/

theorem run_groupOpening_ascii (start : Nat)
    (h : r.rest = .plain '?' :: .plain 'a' :: .plain ':' :: ts)
    (hts : ts.head? ≠ some .dangling) :
    (groupOpening start).run r =
      .ok (.plain { ascii := true } .none, r.behind [.plain '?', .plain 'a', .plain ':'] ts) := by
  let behindMark := r.behind [.plain '?'] (.plain 'a' :: .plain ':' :: ts)
  let behindLetter := r.behind [.plain '?', .plain 'a'] (.plain ':' :: ts)
  have hmark : (accept '?').run r = .ok (true, behindMark) := run_accept h (by simp)
  have hletter : take.run behindMark = .ok (some (.plain 'a'), behindLetter) := by
    rw [run_take rfl (by simp), Reader.behind_behind]
    rfl
  have hcolon : take.run behindLetter =
      .ok (some (.plain ':'), r.behind [.plain '?', .plain 'a', .plain ':'] ts) := by
    rw [run_take rfl hts, Reader.behind_behind]
    rfl
  have hflags : (inlineFlags 'a').run behindLetter =
      .ok (some ({ ascii := true }, .none), r.behind [.plain '?', .plain 'a', .plain ':'] ts) := by
    have hadd : addFlag .none (.switch { ascii := true }) = pure { ascii := true } := rfl
    have hon : ∀ n, (flagsOn (n + 1) .none (.switch { ascii := true })).run behindLetter =
        .ok (({ ascii := true }, ':'), r.behind [.plain '?', .plain 'a', .plain ':'] ts) := by
      intro n
      rw [flagsOn, hadd, pure_bind, run_bind_ok hcolon]
      rfl
    have hinline : inlineFlags 'a' = get >>= fun r =>
        flagsOn (r.rest.length + 1) .none (.switch { ascii := true }) >>= fun x =>
          inlineFlagsBehind (r.rest.length + 1) x.1 x.2 := rfl
    rw [hinline, run_bind_ok (run_get _), run_bind_ok (hon _)]
    rfl
  simp only [groupOpening, run_bind_ok hmark]
  rw [if_neg (by decide)]
  rw [run_bind_ok hletter]
  exact run_bind_ok hflags

/-- An escape that the restriction has wrapped is read as a group limited to ASCII. -/
theorem run_items_wrapped {n : Node} {first v : Bool} {done : List Node}
    (hc : itemEscape c = pure n) (h : r.rest = wrapped c ++ ts) (hts : ts.head? ≠ some .dangling) :
    (items .standard (fuel + 4) first v done).run r =
      (items .standard (fuel + 3) first v (.group none { ascii := true } .none n :: done)).run
        (r.behind (wrapped c) ts) := by
  have htake := run_take h (by simp)
  have hitem : (items .standard (fuel + 2) false v []).run
      (r.behind [.plain '(', .plain '?', .plain 'a', .plain ':'] (.escaped c :: .plain ')' :: ts)) =
        .ok (n, r.behind [.plain '(', .plain '?', .plain 'a', .plain ':', .escaped c]
          (.plain ')' :: ts)) := by
    have hescape : ∀ r, (Escapes.standard.item c).run r = .ok (n, r) := by
      intro r
      change (itemEscape c).run r = _
      rw [hc]
      rfl
    rw [run_items_escaped hescape rfl (by simp), run_items_end (.inr rfl), Reader.behind_behind]
    rfl
  have hbody : (choices .standard (fuel + 3) false v).run
      (r.behind [.plain '(', .plain '?', .plain 'a', .plain ':'] (.escaped c :: .plain ')' :: ts)) =
        .ok (n, r.behind [.plain '(', .plain '?', .plain 'a', .plain ':', .escaped c]
          (.plain ')' :: ts)) :=
    run_choices hitem (by simp)
  have hopening : ∀ start, (groupOpening start).run
      (r.behind [.plain '(']
        (.plain '?' :: .plain 'a' :: .plain ':' :: .escaped c :: .plain ')' :: ts)) =
        .ok (.plain { ascii := true } .none,
          r.behind [.plain '(', .plain '?', .plain 'a', .plain ':']
            (.escaped c :: .plain ')' :: ts)) := by
    intro start
    rw [run_groupOpening_ascii start rfl (by simp), Reader.behind_behind]
    rfl
  have hgroup : ∀ branches start, (groupItem (choices .standard (fuel + 3) false) branches v start
      (.plain { ascii := true } .none)).run
        (r.behind [.plain '(', .plain '?', .plain 'a', .plain ':']
          (.escaped c :: .plain ')' :: ts)) =
        .ok (some (.group none { ascii := true } .none n), r.behind (wrapped c) ts) := by
    intro branches start
    rw [run_groupItem_plain (by simp [Flags.none]) hbody rfl hts, Reader.behind_behind]
    rfl
  rw [items, run_bind_ok (run_peek r)]
  simp [h, wrapped, htake, hopening, hgroup, isVerboseBlank]

/-! ## Groups -/

theorem keeps_closeParenthesis (start start' : Nat) :
    Keeps (Mirror verbose slack false) (closeParenthesis start) (closeParenthesis start') :=
  (keeps_accept (by decide)).bind fun _ => .ite (fun _ => .refused (refuses_failAt _ _)) fun _ =>
    .pure fun _ _ => id

theorem keeps_enterLookbehind (isOutermost : Bool) :
    Keeps (Mirror verbose slack inSet) (enterLookbehind isOutermost)
      (enterLookbehind isOutermost) :=
  .ite (fun _ => .update fun _ _ h => { h with lookbehindLimit := by rw [h.widths] }) fun _ =>
    .pure fun _ _ => id

theorem keeps_leaveLookbehind (isOutermost : Bool) :
    Keeps (Mirror verbose slack inSet) (leaveLookbehind isOutermost)
      (leaveLookbehind isOutermost) :=
  .ite (fun _ => .update fun _ _ h => { h with lookbehindLimit := rfl }) fun _ =>
    .pure fun _ _ => id

/-- Groups are the same when what they contain is. -/
theorem keeps_groupItem {body body' : Bool → Parse Node} {branches branches' : Nat → Parse Node}
    (hbody : ∀ v, (verbose = false → v = false) →
      Keeps (Mirror verbose slack false) (body v) (body' v))
    (hbranches : ∀ g, Keeps (Mirror verbose slack false) (branches g) (branches' g)) {v : Bool}
    (hv : verbose = false → v = false) (start start' : Nat) {opening : Opening}
    (hopening : verbose = false → isVerboseOpening opening = false) :
    Keeps (Mirror verbose slack false) (groupItem body branches v start opening)
      (groupItem body' branches' v start' opening) := by
  have hinside {v : Bool} (hv : verbose = false → v = false) (wrap : Node → Node) :
      Keeps (Mirror verbose slack false)
        (body v >>= fun n => closeParenthesis start >>= fun _ => pure (some (wrap n)))
        (body' v >>= fun n => closeParenthesis start' >>= fun _ => pure (some (wrap n))) :=
    (hbody v hv).bind fun _ => (keeps_closeParenthesis start start').bind fun _ =>
      .pure fun _ _ => id
  cases opening with
  | comment => exact .pure fun _ _ => id
  | globalFlags => exact .pure fun _ _ => id
  | reference g => exact .pure fun _ _ => id
  | capture name =>
      refine (keeps_openGroup name).bind fun g => (hbody v hv).bind fun n =>
        (keeps_closeParenthesis start start').bind fun _ => .getBind fun r r' hr => ?_
      rw [hr.widths]
      exact (keeps_closeGroup g _).bind fun _ => .pure fun _ _ => id
  | plain on off =>
      refine hinside (fun hverbose => ?_) (.group none on off)
      have hon : on.verbose = false := hopening hverbose
      simp [hv hverbose, hon]
  | atomic => exact hinside hv .atomic
  | look behind negated =>
      refine .getBind fun r r' hr => ?_
      rw [hr.lookbehindLimit]
      exact (keeps_enterLookbehind _).bind fun _ => (hbody v hv).bind fun _ =>
        (keeps_leaveLookbehind _).bind fun _ => (keeps_closeParenthesis start start').bind fun _ =>
          .pure fun _ _ => id
  | condition g =>
      exact (hbranches g).bind fun _ => (keeps_closeParenthesis start start').bind fun _ =>
        .pure fun _ _ => id

/-! ## Items and choices -/

/-- What is read with the fuel `n` in the ASCII reading is read with `m` from what the restriction
writes. -/
structure Copied (verbose : Bool) (slack n m : Nat) : Prop where
  choices : ∀ top {v}, (verbose = false → v = false) → Keeps (Mirror verbose slack false)
    (choices asciiEscapes n top v) (choices .standard m top v)
  otherChoices : ∀ top {v}, (verbose = false → v = false) → Keeps (Mirror verbose slack false)
    (otherChoices asciiEscapes n top v) (otherChoices .standard m top v)
  elseBranch : ∀ {v}, (verbose = false → v = false) → Keeps (Mirror verbose slack false)
    (elseBranch asciiEscapes n v) (elseBranch .standard m v)
  items : ∀ first {v} done, (verbose = false → v = false) → Keeps (Mirror verbose slack false)
    (items asciiEscapes n first v done) (items .standard m first v done)

variable {n m : Nat} {v : Bool}

theorem keeps_choices (ih : Copied verbose slack n m) (top : Bool)
    (hv : verbose = false → v = false) :
    Keeps (Mirror verbose slack false) (choices asciiEscapes (n + 1) top v)
      (choices .standard (m + 1) top v) := by
  rw [choices, choices]
  exact (ih.items top [] hv).bind fun _ => (ih.otherChoices top hv).bind fun _ =>
    .pure fun _ _ => id

theorem keeps_otherChoices (ih : Copied verbose slack n m) (top : Bool)
    (hv : verbose = false → v = false) :
    Keeps (Mirror verbose slack false) (otherChoices asciiEscapes (n + 1) top v)
      (otherChoices .standard (m + 1) top v) := by
  rw [otherChoices, otherChoices]
  refine (keeps_accept (by decide)).bind fun _ =>
    .ite (fun _ => .getBind fun r r' hr => ?_) fun _ => .pure fun _ _ => id
  rw [hr.flags]
  have hinside : verbose = false → (if top then r.flags.verbose else v) = false := by
    intro hverbose
    split
    · exact hr.quiet hverbose
    · exact hv hverbose
  exact (ih.items false [] hinside).bind fun _ => (ih.otherChoices top hinside).bind fun _ =>
    .pure fun _ _ => id

theorem keeps_elseBranch (ih : Copied verbose slack n m) (hv : verbose = false → v = false) :
    Keeps (Mirror verbose slack false) (elseBranch asciiEscapes (n + 1) v)
      (elseBranch .standard (m + 1) v) := by
  rw [elseBranch, elseBranch]
  exact (keeps_accept (by decide)).bind fun _ => .ite
    (fun _ => (ih.items false [] hv).bind fun _ => (keeps_nextIs (by decide)).bind fun _ =>
      .ite (fun _ => .fail _ _ _) fun _ => .pure fun _ _ => id)
    fun _ => .pure fun _ _ => id

/-- Behind a character outside of sets that opens none. -/
def BehindPlain (verbose : Bool) (slack : Nat) (c : Char) (r r' : Reader) : Prop :=
  Mirror verbose slack false r r' ∧ isClearBefore verbose r.rest c = true

theorem BehindPlain.isPlainLine (h : BehindPlain verbose slack '#' r r') (hv : verbose = true) :
    isPlainLine r.rest = true := by
  simpa [isClearBefore, hv] using h.2

theorem BehindPlain.behindParenthesis (h : BehindPlain verbose slack '(' r r') :
    BehindParenthesis verbose slack r r' := by
  have hclear : (isPlainGroup r.rest && (verbose || !switchesVerbose r.rest)) = true := h.2
  rw [Bool.and_eq_true] at hclear
  refine ⟨h.1, hclear.1, fun hverbose => ?_⟩
  simpa [hverbose] using hclear.2

theorem copies_takePlainBind {O : α → Reader → Reader → Prop} {g h : Option Token → Parse α}
    (hset : c ≠ '[')
    (hplain : Copies (BehindPlain verbose slack c) O (g (some (.plain c))) (h (some (.plain c)))) :
    Copies (fun r r' => Mirror verbose slack false r r' ∧ r.rest.head? = some (.plain c)) O
      (take >>= g) (take >>= h) := by
  rintro r r' ⟨hr, hhead⟩ a s hrun
  obtain ⟨ts, hrest⟩ := List.head?_eq_some_iff.1 hhead
  obtain ⟨hts, hgo⟩ := takeBind_eq_ok hrest hrun
  have hmirrors := hr.rest
  rw [hrest] at hmirrors
  obtain ⟨rest', hrest', hc, hbehind⟩ := hmirrors.of_outside hset
  rw [run_bind_ok (run_take hrest' (hbehind.not_dangling hts))]
  exact hplain _ _ ⟨hr.behind hbehind, hc⟩ a s hgo

/-- An opening bracket makes a set an item. -/
theorem run_items_set {escapes : Escapes} {first v : Bool} {done : List Node}
    (h : r.rest.head? = some (.plain '[')) :
    (items escapes (fuel + 1) first v done).run r =
      ((take >>= fun _ => setNode escapes r.position) >>= fun set =>
        items escapes fuel first v (set :: done)).run r := by
  rw [items, run_bind_ok (run_peek r), h]
  simp [isVerboseBlank]

/-- An escape that depends on the alphabet is read without looking at what follows. -/
theorem item_of_dependsOnAlphabet (hc : dependsOnAlphabet c = true) : ∃ n,
    itemEscape c = pure n ∧ asciiEscapes.item c = pure (.group none { ascii := true } .none n) := by
  have hmem : c ∈ "wWdDbB".toList := by simpa [dependsOnAlphabet] using hc
  simp only [String.reduceToList, List.mem_cons, List.not_mem_nil, or_false] at hmem
  obtain rfl | rfl | rfl | rfl | rfl | rfl := hmem <;> exact ⟨_, rfl, rfl⟩

/-- A comment of the verbose mode ends where it did. -/
theorem copies_lineComment {O : α → Reader → Reader → Prop} {p q : Parse α}
    (hverbose : verbose = true) (h : Copies (Mirror verbose slack false) O p q) :
    Copies (BehindPlain verbose slack '#') O
      (get >>= fun r => skipLine (r.rest.length + 1) >>= fun _ => p)
      (get >>= fun r => skipLine (r.rest.length + 1) >>= fun _ => q) := by
  rintro r r' hr a s hrun
  exact Copies.bind copies_skipLine (fun _ => h) r r'
    ⟨⟨hr.1, hr.isPlainLine hverbose⟩, Nat.lt_succ_self _⟩ a s hrun

/-- The choices of a condition on a group. -/
def branches (escapes : Escapes) (fuel : Nat) (v : Bool) (g : Nat) : Parse Node := do
  let yes ← items escapes fuel false v []
  return .cond g yes (← elseBranch escapes fuel v)

/-- The items from the opening of a group on. -/
def itemsBehind (escapes : Escapes) (fuel : Nat) (first v : Bool) (done : List Node)
    (start : Nat) : Opening → Parse Node
  | .globalFlags => do
      if !first || !done.isEmpty then failAt .lateGlobalFlags start
      else items escapes fuel first (← get).flags.verbose done
  | opening => do
      let item? ← groupItem (choices escapes fuel false) (branches escapes fuel v) v start opening
      items escapes fuel first v (item?.toList ++ done)

variable (ih : Copied verbose slack n m) (first : Bool) (done : List Node)
  (hv : verbose = false → v = false)

include ih hv

/-- A set is the same item in both readings. -/
theorem copies_items_set : Copies
    (fun r r' => Mirror verbose slack false r r' ∧ r.rest.head? = some (.plain '['))
    (fun _ => Mirror verbose slack false) (items asciiEscapes (n + 1) first v done)
    (items .standard (m + 1) first v done) := by
  rintro r r' ⟨hr, hset⟩ a s hrun
  have hset' := (hr.rest.head?_eq_plain_iff (by decide)).2 hset
  rw [run_items_set hset] at hrun
  rw [run_items_set hset']
  exact (copies_set r.position r'.position).bind (fun set => ih.items first (set :: done) hv)
    _ _ ⟨hr, hset⟩ a s hrun

theorem keeps_branches (g : Nat) : Keeps (Mirror verbose slack false)
    (branches asciiEscapes n v g) (branches .standard m v g) :=
  (ih.items false [] hv).bind fun _ => (ih.elseBranch hv).bind fun _ => .pure fun _ _ => id

theorem copies_itemsBehind (opening : Opening) (start start' : Nat) :
    Copies (BehindOpening verbose slack opening) (fun _ => Mirror verbose slack false)
      (itemsBehind asciiEscapes n first v done start opening)
      (itemsBehind .standard m first v done start' opening) := by
  rintro r r' ⟨hr, hopening⟩
  refine (?_ : Keeps (Mirror verbose slack false) _ _) r r' hr
  have hitem := keeps_groupItem (fun _ => ih.choices false) (keeps_branches ih hv) hv start start'
    hopening
  cases opening with
  | globalFlags =>
      refine .ite (fun _ => .refused (refuses_failAt _ _)) fun _ => .getBind fun s s' hs => ?_
      rw [hs.flags]
      exact ih.items first done fun hverbose => hs.quiet hverbose
  | _ => exact hitem.bind fun _ => ih.items first _ hv

/-- A character that opens no set means the same in both readings. -/
theorem copies_items_plain (hset : c ≠ '[') : Copies
    (fun r r' => Mirror verbose slack false r r' ∧ r.rest.head? = some (.plain c))
    (fun _ => Mirror verbose slack false) (items asciiEscapes (n + 1) first v done)
    (items .standard (m + 1) first v done) := by
  rintro r r' ⟨hr, hhead⟩ a s hrun
  have hhead' : r'.rest.head? = some (.plain c) := by
    obtain ⟨ts, hrest⟩ := List.head?_eq_some_iff.1 hhead
    have hmirrors := hr.rest
    rw [hrest] at hmirrors
    obtain ⟨ts', hrest', -, -⟩ := hmirrors.of_outside hset
    rw [hrest', List.head?_cons]
  rw [items, run_bind_ok (run_peek r), hhead] at hrun
  rw [items, run_bind_ok (run_peek r'), hhead']
  dsimp only at hrun ⊢
  refine (?_ : Copies (fun r r' => Mirror verbose slack false r r' ∧
    r.rest.head? = some (.plain c)) (fun _ => Mirror verbose slack false) _ _) r r'
      ⟨hr, hhead⟩ a s hrun
  refine .ite (fun _ => .pure fun _ _ h => h.1) fun _ => .getBind fun q q' _ =>
    copies_takePlainBind hset ?_
  have hmore (done : List Node) : Copies (BehindPlain verbose slack c)
      (fun _ => Mirror verbose slack false) (items asciiEscapes n first v done)
      (items .standard m first v done) :=
    (ih.items first done hv).weaken fun _ _ h => h.1
  -- The branches are white space, a comment, a set, a repetition, single characters and a group.
  refine .ite (fun _ => hmore done) fun _ => .ite (fun hcomment => ?_) fun _ =>
    .ite (absurd · hset) fun _ => .ite (fun _ => ?_) fun _ => .ite (fun _ => hmore _) fun _ =>
    .ite (fun _ => hmore _) fun _ => .ite (fun _ => hmore _) fun _ =>
    .ite (fun hgroup => ?_) fun _ => hmore _
  · simp only [Bool.and_eq_true, decide_eq_true_eq] at hcomment
    obtain ⟨hon, rfl⟩ := hcomment
    have hverbose : verbose = true := by
      cases hverbose : verbose with
      | false => simp [hv hverbose] at hon
      | true => rfl
    exact copies_lineComment hverbose (ih.items first done hv)
  · refine ((keeps_boundsFor c).weaken fun _ _ h => h.1).bind fun bounds => ?_
    cases bounds with
    | literalBrace => exact ih.items first _ hv
    | between low high =>
        exact (keeps_repeatLast _ _ low high done).bind fun _ => ih.items first _ hv
  · subst hgroup
    exact ((copies_groupOpening _ _).weaken fun _ _ h => h.behindParenthesis).bind
      fun opening => copies_itemsBehind ih first done hv opening _ _

theorem keeps_items (hnm : n + slack ≤ m) :
    Keeps (Mirror verbose slack false) (items asciiEscapes (n + 1) first v done)
      (items .standard (m + 1) first v done) := by
  intro r r' hr a s hrun
  have hmirrors := hr.rest
  generalize hrest : r.rest = rest at hmirrors
  generalize hrest' : r'.rest = rest' at hmirrors
  cases hmirrors with
  | nil =>
      rw [items, run_bind_ok (run_peek r), hrest] at hrun
      rw [items, run_bind_ok (run_peek r'), hrest']
      cases hrun
      exact ⟨r', rfl, hr⟩
  | dangling =>
      rw [items, run_bind_ok (run_peek r), hrest] at hrun
      exact absurd hrun (refuses_fail _ _ _ _ _)
  | plain hset =>
      exact copies_items_plain ih first done hv hset r r' ⟨hr, by rw [hrest, List.head?_cons]⟩ a s
        hrun
  | opening =>
      exact copies_items_set ih first done hv r r' ⟨hr, by rw [hrest, List.head?_cons]⟩ a s hrun
  | closing =>
      exact copies_items_set ih first done hv r r' ⟨hr, by rw [hrest, List.head?_cons]⟩ a s hrun
  | @escaped c ts ts' hc hbehind =>
      rw [items, run_bind_ok (run_peek r), hrest] at hrun
      rw [items, run_bind_ok (run_peek r'), hrest']
      obtain ⟨hts, hgo⟩ := takeBind_eq_ok hrest hrun
      dsimp only [List.head?_cons]
      rw [run_bind_ok (run_take hrest' (hbehind.not_dangling hts))]
      have hitem : asciiEscapes.item c = itemEscape c := if_neg (by simp [hc])
      rw [hitem] at hgo
      exact Copies.bind (keeps_itemEscape c) (fun n => ih.items first (n :: done) hv) _ _
        (hr.behind hbehind) a s hgo
  | @wrapped c ts ts' hc hslack hbehind =>
      rw [items, run_bind_ok (run_peek r), hrest] at hrun
      obtain ⟨hts, hgo⟩ := takeBind_eq_ok hrest hrun
      obtain ⟨node, hnode, hitem⟩ := item_of_dependsOnAlphabet hc
      rw [hitem, pure_bind] at hgo
      obtain ⟨m, rfl⟩ := Nat.exists_eq_add_of_le' (show 3 ≤ m by omega)
      rw [run_items_wrapped hnode hrest' (hbehind.not_dangling hts)]
      exact ih.items first _ hv _ _ (hr.behind hbehind) a s hgo

omit ih hv

theorem copied (hnm : n + slack ≤ m) : Copied verbose slack n m := by
  induction n generalizing m with
  | zero =>
      exact {
        choices := fun _ _ _ => by
          rw [choices]
          exact .throw _ _
        otherChoices := fun _ _ _ => by
          rw [otherChoices]
          exact .throw _ _
        elseBranch := fun _ => by
          rw [elseBranch]
          exact .throw _ _
        items := fun _ _ _ _ => by
          rw [items]
          exact .throw _ _ }
  | succ n ih =>
      obtain ⟨m, rfl⟩ := Nat.exists_eq_add_of_le' (show 1 ≤ m by omega)
      have hbehind : Copied verbose slack n m := ih (by omega)
      exact {
        choices := fun top _ => keeps_choices hbehind top
        otherChoices := fun top _ => keeps_otherChoices hbehind top
        elseBranch := keeps_elseBranch hbehind
        items := fun first _ done hv => keeps_items hbehind first done hv (by omega) }

/-! ## Whole patterns -/

theorem fault?_eq_none_iff : r.fault? = none ↔
    r.rest = [] ∧ ∀ g ∈ r.conditions.map Prod.fst, ¬ r.widths.length < g := by
  unfold Reader.fault?
  split
  · rename_i hrest
    exact iff_of_false nofun fun h => by simp [h.1] at hrest
  · rename_i hrest
    simp only [Bool.not_eq_true', Bool.not_eq_false, List.isEmpty_iff] at hrest
    simp [hrest]

theorem conclude_mirrored {node : Node} {p : Parsed} (h : Mirror verbose slack false r r')
    (hp : conclude node r = .ok p) : conclude node r' = .ok p := by
  obtain ⟨flags, hflags, hp⟩ := bind_eq_ok_iff.1 hp
  cases hfault : r.fault? with
  | some e =>
      rw [hfault] at hp
      cases hp
  | none =>
      have hfault' : r'.fault? = none := by
        rw [fault?_eq_none_iff] at hfault ⊢
        have hrest := h.rest
        rw [hfault.1] at hrest
        exact ⟨hrest.eq_nil, by rw [h.conditions, h.widths]; exact hfault.2⟩
      rw [hfault] at hp
      cases hp
      rw [conclude, h.flags, hflags, hfault', h.widths, h.names]
      rfl

theorem readAll_mirrored {p : Parsed} (h : Mirror verbose slack false r r')
    (hfuel : 3 * r.rest.length + slack ≤ 3 * r'.rest.length)
    (hp : readAll asciiEscapes r = .ok p) : readAll .standard r' = .ok p := by
  rw [readAll] at hp ⊢
  split at hp
  · cases hp
  · rename_i hdangling
    rw [if_neg (h.rest.not_dangling hdangling)]
    obtain ⟨⟨node, s⟩, hrun, hp⟩ := bind_eq_ok_iff.1 hp
    obtain ⟨s', hrun', hs⟩ :=
      (copied (m := 3 * r'.rest.length + 3) (by omega)).choices true h.quiet r r' h node s hrun
    rw [h.flags, hrun']
    exact conclude_mirrored hs hp

/-- What is read in the ASCII reading is read from what the restriction writes. -/
theorem parse_restrictChars {pattern : List Char} {flags : Flags} {p : Parsed}
    (hclear : isClear verbose .outside false (Token.scan pattern) = true)
    (hquiet : verbose = false → flags.verbose = false)
    (hp : parse asciiEscapes pattern flags = .ok p) :
    parse .standard (restrictChars false pattern) flags = .ok p := by
  obtain ⟨hlength, hmirrors⟩ := growsInto_restrictChars hclear
  have hmirror : Mirror verbose _ false (.start pattern flags)
      (.start (restrictChars false pattern) flags) :=
    ⟨hmirrors _ (Nat.le_refl _), rfl, rfl, rfl, rfl, rfl, hquiet⟩
  refine readAll_mirrored hmirror ?_ hp
  simp only [Reader.start]
  omega

/-- Whether what has been compiled matches all of a text. -/
def fullMatches? (compiled : Except Error Expression) (text : String) : Option Bool :=
  compiled.toOption.map fun e => (e.fullMatch text.toList).isSome

end FolderTag.Pattern
