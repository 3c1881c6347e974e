import FolderTag.Pattern.Dialect

/-! # Sets that are told alike

The restriction to ASCII tells by itself where a set begins and ends. It goes by the brackets alone:
to it a closing bracket ends every set, and comments are text like any other. Here are the patterns
in which it is right about every escape that it replaces, and what it makes of their tokens. -/

namespace FolderTag.Pattern

open FolderTag.Regex

/-! ## Where sets begin and end -/

/-- Where a token of a pattern stands: `opened` is right behind an opening bracket, and `negated`
behind that and a caret. -/
inductive SetPlace where
  | outside
  | opened
  | negated
  | inside
deriving DecidableEq, Repr

namespace SetPlace

def inSet : SetPlace → Bool
  | .outside => false
  | _ => true

/-- The place behind a character. A closing bracket that is the first member of a set does not end
it. -/
def behind : SetPlace → Char → SetPlace
  | .outside, c => if c = '[' then .opened else .outside
  | .opened, c => if c = '^' then .negated else .inside
  | .negated, _ => .inside
  | .inside, c => if c = ']' then .outside else .inside

/-- The place behind an escape. -/
def behindEscape : SetPlace → SetPlace
  | .outside => .outside
  | _ => .inside

end SetPlace

/-- Whether a comment up to its closing parenthesis holds neither an opening bracket nor an escape
that would be wrapped. -/
def isPlainComment : List Token → Bool
  | .plain c :: ts => c == ')' || (c != '[' && isPlainComment ts)
  | .escaped c :: ts => !dependsOnAlphabet c && isPlainComment ts
  | _ => true

/-- Whether a comment up to the end of its line holds no opening bracket. -/
def isPlainLine : List Token → Bool
  | .plain c :: ts => c == '\n' || (c != '[' && isPlainLine ts)
  | .escaped _ :: ts => isPlainLine ts
  | _ => true

/-- Whether a group is no comment or a plain one, by the tokens behind its parenthesis. -/
def isPlainGroup : List Token → Bool
  | .plain '?' :: .plain '#' :: ts => isPlainComment ts
  | _ => true

/-- Whether the verbose mode is among flag letters. -/
def namesVerbose : List Token → Bool
  | .plain c :: ts => (FlagLetter.ofChar? c).isSome && (c == 'x' || namesVerbose ts)
  | _ => false

/-- Whether a group switches the verbose mode on, by the tokens behind its parenthesis. -/
def switchesVerbose : List Token → Bool
  | .plain '?' :: ts => namesVerbose ts
  | _ => false

/-- Whether an octal escape that may go on for `count` digits would go on into the digits that a
digit class is replaced by. -/
def swallowsDigits : Nat → List Token → Bool
  | _ + 1, .escaped c :: _ => c == 'd'
  | count + 1, .plain c :: ts => isOctal c && swallowsDigits count ts
  | _, _ => false

/-- Whether a character outside of sets begins no comment that misleads, when `ts` stands behind it.
Where the verbose mode may be on, a number sign may begin a comment. -/
def isClearBefore (verbose : Bool) (ts : List Token) (c : Char) : Bool :=
  if c = '(' then isPlainGroup ts && (verbose || !switchesVerbose ts)
  else c != '#' || !verbose || isPlainLine ts

/-- Whether the restriction seems to be inside of a set behind a character. -/
def seemsOpen (seen : Bool) (c : Char) : Bool := if seen then c != ']' else c == '['

/-- Whether the restriction is right about all that it replaces: it sees a set exactly where there
is one, and the digits that it lists do not go on an octal escape. `place` tells where the tokens
stand, `seen` whether the restriction sees a set there, and `verbose` whether the verbose mode may be
on. -/
def isClear (verbose : Bool) : SetPlace → (seen : Bool) → List Token → Bool
  | place, seen, .plain c :: ts =>
      (place.inSet || isClearBefore verbose ts c) &&
        isClear verbose (place.behind c) (seemsOpen seen c) ts
  | place, seen, .escaped c :: ts =>
      (place.inSet == seen || !dependsOnAlphabet c) &&
        !(place.inSet && isOctal c && swallowsDigits 2 ts) &&
          isClear verbose place.behindEscape seen ts
  | _, _, _ => true

/-- Whether the restriction to ASCII replaces the escapes of a pattern as they are read. -/
def hasClearSets (pattern : String) (flags : Flags) : Bool :=
  let tokens := Token.scan pattern.toList
  isClear true .outside false tokens || (!flags.verbose && isClear false .outside false tokens)

example : hasClearSets "(?i:[^\\w\\]-]|\\d#)[^]a[](?#a])\\d" .none = true := by decide

example : hasClearSets "[]\\w]" .none = false := by decide

/-! ## What becomes of tokens -/

/-- Whether the first member of a set is a closing bracket. -/
def closesAtOnce : List Token → Bool
  | .plain ']' :: _ => true
  | .plain '^' :: .plain ']' :: _ => true
  | _ => false

/-- An escape limited to ASCII outside of sets. -/
def wrapped (c : Char) : List Token :=
  [.plain '(', .plain '?', .plain 'a', .plain ':', .escaped c, .plain ')']

/-- The second row of tokens is the first one restricted to ASCII, and nothing in it is misread.
Escapes are wrapped only where there is some `slack`. -/
inductive Mirrors (verbose : Bool) (slack : Nat) : Bool → List Token → List Token → Prop where
  | nil (inSet) : Mirrors verbose slack inSet [] []
  | dangling (inSet) : Mirrors verbose slack inSet [.dangling] [.dangling]
  | plain {c ts ts'} (hset : c ≠ '[') (hc : isClearBefore verbose ts c = true)
      (h : Mirrors verbose slack false ts ts') :
      Mirrors verbose slack false (.plain c :: ts) (.plain c :: ts')
  | opening {ts ts'} (hclosing : closesAtOnce ts = false) (h : Mirrors verbose slack true ts ts') :
      Mirrors verbose slack false (.plain '[' :: ts) (.plain '[' :: ts')
  | closing {caret ts ts'} (hcaret : caret = [] ∨ caret = [.plain '^'])
      (h : Mirrors verbose slack true ts ts') :
      Mirrors verbose slack false (.plain '[' :: (caret ++ .plain ']' :: ts))
        (.plain '[' :: (caret ++ .plain ']' :: ts'))
  | escaped {c ts ts'} (hc : dependsOnAlphabet c = false)
      (h : Mirrors verbose slack false ts ts') :
      Mirrors verbose slack false (.escaped c :: ts) (.escaped c :: ts')
  | wrapped {c ts ts'} (hc : dependsOnAlphabet c = true) (hslack : 3 ≤ slack)
      (h : Mirrors verbose slack false ts ts') :
      Mirrors verbose slack false (.escaped c :: ts) (wrapped c ++ ts')
  | member {c ts ts'} (h : Mirrors verbose slack (c != ']') ts ts') :
      Mirrors verbose slack true (.plain c :: ts) (.plain c :: ts')
  | escapedMember {c ts ts'} (hc : asciiMembers? c = none)
      (hdigits : (isOctal c && swallowsDigits 2 ts) = false)
      (h : Mirrors verbose slack true ts ts') :
      Mirrors verbose slack true (.escaped c :: ts) (.escaped c :: ts')
  | listed {c members ts ts'} (hc : asciiMembers? c = some members)
      (h : Mirrors verbose slack true ts ts') :
      Mirrors verbose slack true (.escaped c :: ts) (members.map .plain ++ ts')

theorem scan_plain_cons {c : Char} (h : c ≠ '\\') (cs : List Char) :
    Token.scan (c :: cs) = .plain c :: Token.scan cs := by
  rw [Token.scan]
  · rintro d ds he
    exact absurd he h
  · rintro he
    exact absurd he h

theorem scan_append {cs : List Char} (h : '\\' ∉ cs) (ds : List Char) :
    Token.scan (cs ++ ds) = cs.map .plain ++ Token.scan ds := by
  induction cs with
  | nil => rfl
  | cons c cs ih =>
      rw [List.mem_cons, not_or] at h
      rw [List.cons_append, scan_plain_cons (Ne.symm h.1), ih h.2]
      rfl

variable {verbose inSet seen : Bool} {slack : Nat} {c : Char} {members : List Char}
variable {place : SetPlace} {ts ts' : List Token}

theorem asciiMembers?_eq_some (h : asciiMembers? c = some members) :
    c = 'w' ∧ members = "a-zA-Z0-9_".toList ∨ c = 'd' ∧ members = "0-9".toList := by
  unfold asciiMembers? at h
  split at h
  · exact .inl ⟨rfl, (Option.some.inj h).symm⟩
  · exact .inr ⟨rfl, (Option.some.inj h).symm⟩
  · cases h

theorem asciiMembers?_eq_none (h : dependsOnAlphabet c = false) : asciiMembers? c = none := by
  unfold asciiMembers?
  split
  · simp [dependsOnAlphabet] at h
  · simp [dependsOnAlphabet] at h
  · rfl

theorem inSet_of_ne (h : place ≠ .outside) : place.inSet = true := by
  cases place with
  | outside => exact absurd rfl h
  | _ => rfl

theorem behindEscape_of_ne (h : place ≠ .outside) : place.behindEscape = .inside := by
  cases place with
  | outside => exact absurd rfl h
  | _ => rfl

/-- What stands before a place in a set that has just been opened. -/
def SetPlace.opening : SetPlace → List Token
  | .opened => [.plain '[']
  | .negated => [.plain '[', .plain '^']
  | _ => []

/-- Tokens are mirrored where they stand, the beginning of a set included. -/
def MirrorsAt (verbose : Bool) (slack : Nat) (place : SetPlace) (ts ts' : List Token) : Prop :=
  Mirrors verbose slack (place == .inside) (place.opening ++ ts) (place.opening ++ ts')

theorem closesAtOnce_caret_of_ne (hbracket : ts.head? ≠ some (.plain ']')) :
    closesAtOnce (.plain '^' :: ts) = false := by
  unfold closesAtOnce
  split
  · rename_i hts
    cases hts
  · rename_i hts
    cases hts
    exact absurd rfl hbracket
  · rfl

theorem closesAtOnce_of_ne (hcaret : ts.head? ≠ some (.plain '^'))
    (hbracket : ts.head? ≠ some (.plain ']')) : closesAtOnce ts = false := by
  unfold closesAtOnce
  split
  · exact absurd List.head?_cons hbracket
  · exact absurd List.head?_cons hcaret
  · rfl

/-- Tokens inside of a set may begin it, unless the first is a caret or a closing bracket. -/
theorem mirrorsAt_of_inside (hplace : place ≠ .outside)
    (hcaret : ts.head? ≠ some (.plain '^')) (hbracket : ts.head? ≠ some (.plain ']'))
    (h : Mirrors verbose slack true ts ts') : MirrorsAt verbose slack place ts ts' := by
  cases place with
  | outside => exact absurd rfl hplace
  | opened => exact .opening (closesAtOnce_of_ne hcaret hbracket) h
  | negated => exact .opening (closesAtOnce_caret_of_ne hbracket) (.member h)
  | inside => exact h

/-- Tokens that are mirrored both inside of sets and outside of them. -/
theorem mirrorsAt_of_forall (hcaret : ts.head? ≠ some (.plain '^'))
    (hbracket : ts.head? ≠ some (.plain ']')) (h : ∀ inSet, Mirrors verbose slack inSet ts ts') :
    MirrorsAt verbose slack place ts ts' := by
  by_cases hplace : place = .outside
  · subst hplace
    exact h false
  · exact mirrorsAt_of_inside hplace hcaret hbracket (h true)

/-- A character is mirrored by itself. -/
theorem mirrorsAt_plain (hc : place = .outside → isClearBefore verbose ts c = true)
    (h : MirrorsAt verbose slack (place.behind c) ts ts') :
    MirrorsAt verbose slack place (.plain c :: ts) (.plain c :: ts') := by
  cases place with
  | outside =>
      by_cases hset : c = '['
      · subst hset
        exact h
      · rw [SetPlace.behind, if_neg hset] at h
        exact .plain hset (hc rfl) h
  | opened =>
      by_cases hcaret : c = '^'
      · subst hcaret
        exact h
      · rw [SetPlace.behind, if_neg hcaret] at h
        by_cases hbracket : c = ']'
        · subst hbracket
          exact .closing (.inl rfl) h
        · refine mirrorsAt_of_inside (by decide) ?_ ?_ (.member ?_)
          · simpa using hcaret
          · simpa using hbracket
          · rw [bne_iff_ne.2 hbracket]
            exact h
  | negated =>
      by_cases hbracket : c = ']'
      · subst hbracket
        exact .closing (.inr rfl) h
      · refine .opening (closesAtOnce_caret_of_ne ?_) (.member (.member ?_))
        · simpa using hbracket
        · rw [bne_iff_ne.2 hbracket]
          exact h
  | inside =>
      refine .member ?_
      by_cases hbracket : c = ']'
      · subst hbracket
        exact h
      · rw [SetPlace.behind, if_neg hbracket] at h
        rw [bne_iff_ne.2 hbracket]
        exact h

/-- An escape that is kept inside of a set is mirrored by itself. -/
theorem mirrorsAt_escaped (hplace : place ≠ .outside) (hc : asciiMembers? c = none)
    (hdigits : (place.inSet && isOctal c && swallowsDigits 2 ts) = false)
    (h : MirrorsAt verbose slack place.behindEscape ts ts') :
    MirrorsAt verbose slack place (.escaped c :: ts) (.escaped c :: ts') := by
  rw [inSet_of_ne hplace, Bool.true_and] at hdigits
  rw [behindEscape_of_ne hplace] at h
  exact mirrorsAt_of_inside hplace (by simp) (by simp) (.escapedMember hc hdigits h)

/-! ## What the restriction writes -/

/-- Tokens are mirrored by at least as many others, wherever there is the slack for more of them. -/
structure GrowsInto (verbose : Bool) (place : SetPlace) (ts ts' : List Token) : Prop where
  length_le : ts.length ≤ ts'.length
  mirrors : ∀ slack, 3 * (ts'.length - ts.length) ≤ slack → MirrorsAt verbose slack place ts ts'

namespace GrowsInto

theorem nil : GrowsInto verbose place [] [] :=
  ⟨Nat.le_refl _, fun _ _ => mirrorsAt_of_forall (by decide) (by decide) .nil⟩

theorem dangling : GrowsInto verbose place [.dangling] [.dangling] :=
  ⟨Nat.le_refl _, fun _ _ => mirrorsAt_of_forall (by decide) (by decide) .dangling⟩

/-- A token that is written as it is needs no slack. -/
theorem cons {place' : SetPlace} {t : Token} (h : GrowsInto verbose place' ts ts')
    (ht : ∀ slack, MirrorsAt verbose slack place' ts ts' →
      MirrorsAt verbose slack place (t :: ts) (t :: ts')) :
    GrowsInto verbose place (t :: ts) (t :: ts') :=
  ⟨Nat.succ_le_succ h.length_le, fun slack hslack =>
    ht slack (h.mirrors slack (by simpa using hslack))⟩

theorem plain (hc : place = .outside → isClearBefore verbose ts c = true)
    (h : GrowsInto verbose (place.behind c) ts ts') :
    GrowsInto verbose place (.plain c :: ts) (.plain c :: ts') :=
  h.cons fun _ => mirrorsAt_plain hc

/-- An escape is kept if it does not depend on the alphabet, or stands inside of a set and has no
members to list. -/
theorem escaped (houtside : place = .outside → dependsOnAlphabet c = false)
    (hinside : place ≠ .outside → asciiMembers? c = none)
    (hdigits : (place.inSet && isOctal c && swallowsDigits 2 ts) = false)
    (h : GrowsInto verbose place.behindEscape ts ts') :
    GrowsInto verbose place (.escaped c :: ts) (.escaped c :: ts') := by
  by_cases hplace : place = .outside
  · subst hplace
    exact h.cons fun _ => .escaped (houtside rfl)
  · exact h.cons fun _ => mirrorsAt_escaped hplace (hinside hplace) hdigits

theorem wrapped (hc : dependsOnAlphabet c = true) (h : GrowsInto verbose .outside ts ts') :
    GrowsInto verbose .outside (.escaped c :: ts) (wrapped c ++ ts') := by
  have hlength := h.length_le
  constructor
  case length_le =>
    simp only [Pattern.wrapped, List.length_append, List.length_cons]
    omega
  case mirrors =>
    intro slack hslack
    simp only [Pattern.wrapped, List.length_append, List.length_cons, List.length_nil] at hslack
    exact .wrapped hc (by omega) (h.mirrors slack (by omega))

theorem listed (hplace : place ≠ .outside) (hc : asciiMembers? c = some members)
    (h : GrowsInto verbose place.behindEscape ts ts') :
    GrowsInto verbose place (.escaped c :: ts) (members.map .plain ++ ts') := by
  have hlength := h.length_le
  have hpos : 1 ≤ members.length := by
    obtain ⟨-, rfl⟩ | ⟨-, rfl⟩ := asciiMembers?_eq_some hc
    · decide
    · decide
  constructor
  case length_le =>
    simp only [List.length_append, List.length_map, List.length_cons]
    omega
  case mirrors =>
    intro slack hslack
    simp only [List.length_append, List.length_map, List.length_cons] at hslack
    have hbehind := h.mirrors slack (by omega)
    rw [behindEscape_of_ne hplace] at hbehind
    exact mirrorsAt_of_inside hplace (by simp) (by simp) (.listed hc hbehind)

end GrowsInto

section Written

variable (cs : List Char)

/-- An escape is written as it is where nothing is listed or wrapped for it. -/
theorem scan_restrictChars_kept (hlisted : seen = true → asciiMembers? c = none)
    (hwrapped : seen = false → dependsOnAlphabet c = false) :
    Token.scan (restrictChars seen ('\\' :: c :: cs)) =
      .escaped c :: Token.scan (restrictChars seen cs) := by
  cases seen with
  | true =>
      rw [restrictChars.eq_2 c cs (hlisted rfl)]
      rfl
  | false =>
      rw [restrictChars.eq_3, if_neg (by simp [hwrapped rfl])]
      rfl

theorem scan_restrictChars_wrapped (hc : dependsOnAlphabet c = true) :
    Token.scan (restrictChars false ('\\' :: c :: cs)) =
      wrapped c ++ Token.scan (restrictChars false cs) := by
  rw [restrictChars.eq_3, if_pos hc]
  rfl

theorem scan_restrictChars_listed (hc : asciiMembers? c = some members) :
    Token.scan (restrictChars true ('\\' :: c :: cs)) =
      members.map .plain ++ Token.scan (restrictChars true cs) := by
  rw [restrictChars.eq_1 c cs members hc]
  obtain ⟨-, rfl⟩ | ⟨-, rfl⟩ := asciiMembers?_eq_some hc
  · exact scan_append (by decide) _
  · exact scan_append (by decide) _

end Written

/-- The tokens of a pattern grow into what the restriction makes of them, where it is right about
all that it replaces. -/
theorem growsInto_restrictChars {cs : List Char}
    (h : isClear verbose place seen (Token.scan cs) = true) :
    GrowsInto verbose place (Token.scan cs) (Token.scan (restrictChars seen cs)) := by
  induction cs using Token.scan.induct generalizing place seen with
  | case1 => exact .nil
  | case2 c cs ih =>
      rw [Token.scan] at h ⊢
      rw [isClear, Bool.and_eq_true, Bool.and_eq_true, Bool.not_eq_true'] at h
      obtain ⟨⟨hagree, hdigits⟩, hclear⟩ := h
      have hbehind := ih hclear
      cases hdepends : dependsOnAlphabet c with
      | false =>
          have hmembers := asciiMembers?_eq_none hdepends
          rw [scan_restrictChars_kept cs (fun _ => hmembers) fun _ => hdepends]
          exact hbehind.escaped (fun _ => hdepends) (fun _ => hmembers) hdigits
      | true =>
          have hseen : place.inSet = seen := by simpa [hdepends] using hagree
          by_cases hplace : place = .outside
          · subst hplace hseen
            rw [SetPlace.inSet, scan_restrictChars_wrapped cs hdepends]
            exact hbehind.wrapped hdepends
          · rw [inSet_of_ne hplace] at hseen
            subst hseen
            cases hmembers : asciiMembers? c with
            | none =>
                rw [scan_restrictChars_kept cs (fun _ => hmembers) (absurd · (by decide))]
                exact hbehind.escaped (absurd · hplace) (fun _ => hmembers) hdigits
            | some members =>
                rw [scan_restrictChars_listed cs hmembers]
                exact hbehind.listed hplace hmembers
  | case3 =>
      have hsame : restrictChars seen ['\\'] = ['\\'] := by cases seen <;> rfl
      rw [hsame]
      exact .dangling
  | case4 c cs hescape hdangling ih =>
      have hplain : c ≠ '\\' := by
        rintro rfl
        cases cs with
        | nil => exact hdangling rfl rfl
        | cons d cs => exact hescape d cs rfl rfl
      have hrestrict : restrictChars seen (c :: cs) = c :: restrictChars (seemsOpen seen c) cs :=
        restrictChars.eq_4 seen c cs hescape
      rw [hrestrict, scan_plain_cons hplain, scan_plain_cons hplain]
      rw [scan_plain_cons hplain, isClear, Bool.and_eq_true, Bool.or_eq_true] at h
      refine (ih h.2).plain ?_
      rintro rfl
      exact h.1.resolve_left Bool.false_ne_true

end FolderTag.Pattern
