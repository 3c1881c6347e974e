import FolderTag.Pattern.Dialect
import FolderTag.Proofs.Regex.Choice
import FolderTag.Proofs.Regex.Compiling
import FolderTag.Proofs.Regex.Reading

/-! # Shorthand classes that stop at ASCII

A pattern in which shorthand classes and word boundaries stop at ASCII, as another reading of the
same pattern. Whatever can be compiled as it is written can be compiled in this reading. -/

namespace FolderTag.Pattern

open FolderTag.Regex FolderTag.Regex.Parse
open List (Forall₂)

/-- The members of a shorthand class inside brackets, as far as ASCII goes. -/
def asciiSet? : Char → Option (List SetItem)
  | 'w' => some [.range 97 122, .range 65 90, .range 48 57, .code 95]
  | 'd' => some [.range 48 57]
  | _ => none

/-- Escapes under which shorthand classes and word boundaries stop at ASCII; inside brackets the
negated classes do not. -/
def asciiEscapes : Escapes where
  item c :=
    if dependsOnAlphabet c then do
      return .group none { ascii := true } .none (← itemEscape c)
    else itemEscape c
  members c :=
    match asciiSet? c with
    | some members => return members
    | none => do return [← setEscape c]

theorem isDigit_eq (x : Char) : x.isDigit = (decide (48 ≤ x.toNat) && decide (x.toNat ≤ 57)) := by
  simp [Char.isDigit, UInt32.le_iff_toNat_le]

theorem toNat_beq (x y : Char) : (x.toNat == y.toNat) = (x == y) := by
  rw [Bool.eq_iff_iff, beq_iff_eq, beq_iff_eq, Char.toNat_inj]

/-- Inside brackets, what is listed are the ASCII characters of the class. -/
theorem any_holds_asciiSet {c : Char} {set : List SetItem} (h : asciiSet? c = some set) :
    ∃ kind, classEscape? c = some (.named kind false) ∧
      ∀ unicode x, set.any (·.holds unicode x) = kind.holds false x := by
  unfold asciiSet? at h
  split at h
  · cases h
    refine ⟨.word, rfl, fun unicode x => ?_⟩
    have hword : ClassKind.word.holds false x =
        (x.isUpper || x.isLower || x.isDigit || x == '_') := rfl
    have hupper : x.isUpper = (decide (65 ≤ x.toNat) && decide (x.toNat ≤ 90)) := by
      change decide (x.val ≥ 65 ∧ x.val ≤ 90) = _
      simp [UInt32.le_iff_toNat_le]
    have hlower : x.isLower = (decide (97 ≤ x.toNat) && decide (x.toNat ≤ 122)) := by
      change (decide (x.val ≥ 97) && decide (x.val ≤ 122)) = _
      simp [UInt32.le_iff_toNat_le]
    rw [hword, hupper, hlower, isDigit_eq, ← toNat_beq]
    simp only [List.any_cons, List.any_nil, SetItem.holds, Bool.or_false, ← Bool.or_assoc]
    rw [Bool.or_comm (decide (97 ≤ x.toNat) && _)]
    rfl
  · cases h
    refine ⟨.digit, rfl, fun unicode x => ?_⟩
    have hdigit : ClassKind.digit.holds false x = x.isDigit := rfl
    rw [hdigit, isDigit_eq]
    simp [SetItem.holds]
  · cases h

/-- Outside of brackets, the class is the one of the ASCII alphabet. -/
theorem run_ascii_group (widths : List (Option Width)) (n : Node) (flags : Flags) :
    (Node.group none { ascii := true } .none n).run widths flags =
      n.run widths { flags with unicode := false, ascii := true } := by
  have hwithin : flags.within { ascii := true } .none =
      { flags with unicode := false, ascii := true } := by
    simp [Flags.within, Flags.choosesAlphabet, Flags.union, Flags.without, Flags.none]
  funext c m k
  rw [Node.run, hwithin]

/-! ## What can be compiled -/

theorem width_ofMembers (widths : List (Option Width)) (negated : Bool) (items : List SetItem) :
    (Node.ofMembers negated items).width widths = ⟨1, 1⟩ := by
  unfold Node.ofMembers
  split
  · rfl
  · rfl

theorem check_ofMembers (widths : List (Option Width)) (flags : Flags) (negated : Bool)
    (items : List SetItem) : (Node.ofMembers negated items).check widths flags = .ok () := by
  unfold Node.ofMembers
  split
  · rfl
  · rfl

theorem isRepeatable_ofMembers (negated : Bool) (items : List SetItem) :
    (Node.ofMembers negated items).isRepeatable = true := by
  unfold Node.ofMembers
  split
  · rfl
  · rfl

/-- `n'` can stand wherever `n` does: it is as wide, passes the check and can be repeated. -/
structure StandsFor (n n' : Node) : Prop where
  width : ∀ widths, n.width widths = n'.width widths
  check : ∀ widths flags, n.check widths flags = .ok () → n'.check widths flags = .ok ()
  isRepeatable : n.isRepeatable = true → n'.isRepeatable = true

namespace StandsFor

variable {n n' m m' : Node} {ns ns' : List Node}

theorem refl (n : Node) : StandsFor n n := ⟨fun _ => rfl, fun _ _ => id, id⟩

theorem forall_check (h : Forall₂ StandsFor ns ns') {widths : List (Option Width)} {flags : Flags}
    (hns : ∀ n ∈ ns, n.check widths flags = .ok ()) : ∀ n ∈ ns', n.check widths flags = .ok () := by
  intro n' hn'
  obtain ⟨n, hn, hnn'⟩ := exists_left_of_mem h hn'
  exact hnn'.check widths flags (hns n hn)

theorem map_width (h : Forall₂ StandsFor ns ns') (widths : List (Option Width)) :
    ns.map (·.width widths) = ns'.map (·.width widths) := by
  induction h with
  | nil => rfl
  | cons hn _ ih => rw [List.map_cons, List.map_cons, ih, hn.width]

theorem sequence (h : Forall₂ StandsFor ns ns') :
    StandsFor (Node.sequence ns) (Node.sequence ns') where
  width widths := by
    rw [Node.width_sequence, Node.width_sequence, Node.rowWidth_eq, Node.rowWidth_eq,
      map_width h widths]
  check widths flags hcheck := by
    rw [Node.check_sequence_iff] at hcheck ⊢
    exact forall_check h hcheck
  isRepeatable hrepeatable := by
    cases h with
    | nil => rfl
    | cons hn hns =>
        cases hns with
        | nil => exact hn.isRepeatable hrepeatable
        | cons _ _ => rfl

theorem choice (hn : StandsFor n n') (hns : Forall₂ StandsFor ns ns') :
    StandsFor (Node.choice n ns) (Node.choice n' ns') where
  width widths := by
    rw [Node.width_choice, Node.width_choice, map_width (.cons hn hns) widths]
  check widths flags hcheck := by
    rw [Node.check_choice_iff] at hcheck ⊢
    exact forall_check (.cons hn hns) hcheck
  isRepeatable hrepeatable := by
    cases hns with
    | nil => exact hn.isRepeatable hrepeatable
    | cons _ _ => exact Node.isRepeatable_choice _ _ _

theorem group (index : Option Nat) (on off : Flags) (h : StandsFor n n') :
    StandsFor (.group index on off n) (.group index on off n') :=
  ⟨h.width, fun widths flags => h.check widths (flags.within on off), id⟩

theorem atomic (h : StandsFor n n') : StandsFor (.atomic n) (.atomic n') :=
  ⟨h.width, h.check, id⟩

theorem look (behind negated : Bool) (h : StandsFor n n') :
    StandsFor (.look behind negated n) (.look behind negated n') where
  width _ := rfl
  check widths flags hcheck := by
    rw [Node.check] at hcheck ⊢
    rw [← h.width]
    dsimp only at hcheck ⊢
    split at hcheck
    · cases hcheck
    · rename_i hlong
      split at hcheck
      · cases hcheck
      · rename_i hvaries
        rw [if_neg hlong, if_neg hvaries]
        exact h.check widths flags hcheck
  isRepeatable := id

theorem cond (g : Nat) (hn : StandsFor n n') (hm : StandsFor m m') :
    StandsFor (.cond g n m) (.cond g n' m') where
  width widths := by rw [Node.width, Node.width, hn.width, hm.width]
  check widths flags hcheck := by
    rw [Node.check, Node.seq_eq_ok_iff] at hcheck ⊢
    exact ⟨hn.check _ _ hcheck.1, hm.check _ _ hcheck.2⟩
  isRepeatable := id

theorem rep (greed : Greed) (low : Nat) (high : Option Nat) (h : StandsFor n n') :
    StandsFor (.rep greed low high n) (.rep greed low high n') where
  width widths := by cases high <;> rw [Node.width, Node.width, h.width]
  check widths flags hcheck := by
    rw [Node.check] at hcheck ⊢
    split at hcheck
    · cases hcheck
    · rename_i htemplate
      rw [if_neg htemplate]
      exact h.check widths flags hcheck
  isRepeatable := nofun

/-- Limiting a node to ASCII changes neither. -/
theorem ascii_group (n : Node) : StandsFor n (.group none { ascii := true } .none n) where
  width _ := rfl
  check widths flags hcheck := by
    rw [Node.check, ← hcheck]
    exact n.check_congr (by rw [Flags.template_within]; simp [Flags.none])
  isRepeatable _ := rfl

/-- Sets can stand for each other, whatever their members are. -/
theorem ofMembers (negated : Bool) (items items' : List SetItem) :
    StandsFor (Node.ofMembers negated items) (Node.ofMembers negated items') where
  width widths := by rw [width_ofMembers, width_ofMembers]
  check widths flags _ := check_ofMembers widths flags negated items'
  isRepeatable _ := isRepeatable_ofMembers negated items'

end StandsFor

/-! ## Both readings in step -/

variable {f : Flags}

theorem tracks_item (c : Char) :
    Tracks False f StandsFor (Escapes.standard.item c) (asciiEscapes.item c) := by
  change Tracks False f StandsFor (itemEscape c) (if dependsOnAlphabet c then _ else _)
  split
  · have hgroup : Tracks False f StandsFor (itemEscape c >>= pure)
        (itemEscape c >>= fun n => pure (.group none { ascii := true } .none n)) :=
      .after (ignores_itemEscape c) fun n => .pure (.ascii_group n)
    rwa [bind_pure] at hgroup
  · refine (Tracks.of_alike (ignores_itemEscape c)).mono ?_
    rintro n _ rfl
    exact .refl n

/-- What one token stands for in a set, in both readings: the same, unless it is a class, which can
end no range. -/
def AreMembers (members members' : List SetItem) : Prop :=
  members ≠ [] ∧ members' ≠ [] ∧ (members' = members ∨ ∀ n, members ≠ [.code n])

theorem areMembers_self {members : List SetItem} (h : members ≠ []) : AreMembers members members :=
  ⟨h, h, .inl rfl⟩

theorem setEscape_of_asciiSet? {c : Char} {members : List SetItem}
    (h : asciiSet? c = some members) :
    members ≠ [] ∧ ∃ kind, setEscape c = pure (.named kind false) := by
  unfold asciiSet? at h
  split at h
  · cases h
    exact ⟨by simp, .word, rfl⟩
  · cases h
    exact ⟨by simp, .digit, rfl⟩
  · cases h

theorem tracks_setMembers (t : Token) :
    Tracks False f AreMembers (setMembers .standard t) (setMembers asciiEscapes t) := by
  cases t with
  | plain c => exact .pure (areMembers_self (by simp))
  | dangling => exact .pure (areMembers_self (by simp))
  | escaped c =>
      change Tracks False f AreMembers (setEscape c >>= fun item => pure [item])
        (match asciiSet? c with | some members => pure members | none => _)
      cases h : asciiSet? c with
      | none =>
          exact .after (ignores_setEscape c) fun item => .pure (areMembers_self (by simp))
      | some members =>
          obtain ⟨hmembers, kind, hkind⟩ := setEscape_of_asciiSet? h
          rw [hkind, pure_bind]
          exact .pure ⟨by simp, hmembers, .inr (by simp)⟩

theorem tracks_setRange {this that : Token} {low low' high high' : List SetItem}
    (hlow : AreMembers low low') (hhigh : AreMembers high high') :
    Tracks False f Eq (setRange this that low high) (setRange this that low' high') := by
  by_cases hsingle : (∃ a, low = [.code a]) ∧ ∃ b, high = [.code b]
  · obtain ⟨⟨a, rfl⟩, b, rfl⟩ := hsingle
    obtain rfl | hlow := hlow.2.2
    · obtain rfl | hhigh := hhigh.2.2
      · exact .of_alike (ignores_setRange _ _ _ _)
      · exact absurd rfl (hhigh b)
    · exact absurd rfl (hlow a)
  · have hrefused : setRange this that low high = fail (.badRange (String.ofList this.text)
        (String.ofList that.text)) (this.width + 1 + that.width) := by
      unfold setRange
      split
      · exact absurd ⟨⟨_, rfl⟩, _, rfl⟩ hsingle
      · rfl
    rw [hrefused]
    exact .refused _ _ _

theorem tracks_setBehind (start : Nat) {more more' : List SetItem → Parse (List SetItem)}
    (hmore : ∀ {items items'}, items.isEmpty = items'.isEmpty →
      Tracks False f (fun _ _ => True) (more items) (more' items'))
    (items items' : List SetItem) (this : Token) {low low' : List SetItem}
    (hlow : AreMembers low low') :
    Tracks False f (fun _ _ => True) (setBehind .standard start more items this low)
      (setBehind asciiEscapes start more' items' this low') := by
  refine .after (ignores_accept '-') fun _ => .ite (fun _ => .after ignores_take fun that => ?_)
    fun _ => hmore ?_
  · cases that with
    | none => exact .throw _
    | some that =>
        exact .ite (fun _ => .pure trivial) fun _ => (tracks_setMembers that).bind fun _ _ hhigh =>
          (tracks_setRange hlow hhigh).bind fun _ _ _ => hmore rfl
  · have hnonempty {members others : List SetItem} (hmembers : members ≠ []) :
        (members.reverse ++ others).isEmpty = false := by
      simp [hmembers]
    rw [hnonempty hlow.1, hnonempty hlow.2.1]

theorem tracks_setItems (start fuel : Nat) {items items' : List SetItem}
    (h : items.isEmpty = items'.isEmpty) :
    Tracks False f (fun _ _ => True) (setItems .standard start fuel items)
      (setItems asciiEscapes start fuel items') := by
  induction fuel generalizing items items' with
  | zero => exact .throw _
  | succ fuel ih =>
      refine .after ignores_take fun this => ?_
      cases this with
      | none => exact .throw _
      | some this =>
          rw [h]
          exact .ite (fun _ => .pure trivial) fun _ => (tracks_setMembers this).bind
            fun _ _ hlow => tracks_setBehind start ih items items' this hlow

theorem tracks_setNode (start : Nat) :
    Tracks False f StandsFor (setNode .standard start) (setNode asciiEscapes start) :=
  .after (ignores_accept '^') fun negated => .getBind fun _ =>
    (tracks_setItems start _ rfl).bind fun items items' _ => .pure (.ofMembers negated items items')

/-- A node that can be repeated is repeated by what stands behind the mark. -/
theorem repeatLast_cons {mark low : Nat} {high : Option Nat} {n : Node} {done : List Node}
    (h : n.isRepeatable = true) :
    repeatLast mark low high (n :: done) = (accept '?' >>= fun lazy =>
      if lazy then pure (.rep .reluctant low high n :: done)
      else accept '+' >>= fun whole =>
        if whole then pure (.rep .possessive low high n :: done)
        else pure (.rep .greedy low high n :: done)) := by
  cases n with
  | anchor a => cases h
  | rep greed low high body => cases h
  | _ => rfl

theorem tracks_repeatLast {mark low : Nat} {high : Option Nat} {done done' : List Node}
    (h : Forall₂ StandsFor done done') :
    Tracks False f (Forall₂ StandsFor) (repeatLast mark low high done)
      (repeatLast mark low high done') := by
  cases h with
  | nil => exact .throw _
  | @cons n n' done done' hn hdone =>
      cases hrepeatable : n.isRepeatable with
      | true =>
          rw [repeatLast_cons hrepeatable, repeatLast_cons (hn.isRepeatable hrepeatable)]
          have hrep (greed : Greed) : Tracks False f (Forall₂ StandsFor)
              (pure (.rep greed low high n :: done)) (pure (.rep greed low high n' :: done')) :=
            .pure (.cons (.rep greed low high hn) hdone)
          exact .after (ignores_accept '?') fun _ => .ite (fun _ => hrep _) fun _ =>
            .after (ignores_accept '+') fun _ => .ite (fun _ => hrep _) fun _ => hrep _
      | false =>
          cases n with
          | anchor a => exact fun _ => ⟨nofun, False.elim⟩
          | rep greed low high body => exact fun _ => ⟨nofun, False.elim⟩
          | _ => cases hrepeatable

/-- Wherever a pattern is read as it is written, it is read in the other way too. -/
theorem parallel_ascii : Parallel False f StandsFor .standard asciiEscapes where
  item := tracks_item
  set := tracks_setNode
  repeatLast := tracks_repeatLast
  same := .refl
  width h := h.width _
  sequence := .sequence
  choice := .choice
  group := .group _ _ _
  atomic := .atomic
  look := .look _ _
  cond := .cond _

theorem isSilent_none : Flags.none.IsSilent := ⟨rfl, rfl, rfl, rfl⟩

theorem union_none (flags : Flags) : flags.union .none = flags := by
  simp [Flags.union, Flags.none]

/-- What can be compiled as it is written can be compiled in the ASCII reading. -/
theorem exists_compileWith_ascii {source : String} {flags : Flags} {e : Expression}
    (h : Regex.compile source flags = .ok e) :
    ∃ e', compileWith asciiEscapes source flags = .ok e' := by
  obtain ⟨p, hparse, h⟩ := bind_eq_ok_iff.1 h
  obtain ⟨_, hcheck, -⟩ := bind_eq_ok_iff.1 h
  obtain ⟨node, hparse', hnode⟩ :=
    (parse_tracks parallel_ascii isSilent_none source.toList flags).1 p hparse
  rw [union_none, union_none] at hparse'
  exact ⟨_, bind_eq_ok_iff.2 ⟨_, hparse', bind_eq_ok_iff.2 ⟨(), hnode.check _ _ hcheck, rfl⟩⟩⟩

end FolderTag.Pattern
