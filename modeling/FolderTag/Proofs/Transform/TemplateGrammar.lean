import FolderTag.Transform.Template
import Mathlib.Data.List.Basic

/-! # The grammar of templates

A template is a row of parts. Behind a dollar sign stands a mark, a number or a name; where none of
them does, the dollar sign stands for itself. Every template is one row of parts and no other. -/

namespace FolderTag.Transform

open FolderTag.Document FolderTag.Text

/-! ## Parts -/

/-- What a mark right behind a dollar sign stands for. -/
def TemplatePart.ofMark? : Char → Option TemplatePart
  | '$' => some (.char '$')
  | '&' => some .whole
  | '\x60' => some .before
  | '\'' => some .after
  | _ => none

namespace Template

section Grammar

variable (value? : Char → Option Nat) (scope : GroupScope)

/-- A text begins with a reference to a group, by a number of one or two digits or by a name in
angle brackets, and goes on behind it. Two digits are taken rather than one. -/
inductive Refers : List Char → (group : Nat) → (rest : List Char) → Prop where
  | two {c d a b rest} (hc : value? c = some a) (hd : value? d = some b) (hpos : 0 < 10 * a + b)
      (hle : 10 * a + b ≤ scope.count) : Refers (c :: d :: rest) (10 * a + b) rest
  | one {c a rest} (hc : value? c = some a) (hpos : 0 < a) (hle : a ≤ scope.count)
      (halone : ∀ d b, rest.head? = some d → value? d = some b → scope.count < 10 * a + b) :
      Refers (c :: rest) a rest
  | named {s name g rest} (hs : s = name ++ '>' :: rest) (hname : '>' ∉ name)
      (hg : scope.names.lookup (String.ofList name) = some g) : Refers ('<' :: s) g rest

/-- A template begins with a part and goes on behind it. -/
inductive Token : List Char → TemplatePart → (rest : List Char) → Prop where
  | plain {c rest} (h : c ≠ '$') : Token (c :: rest) (.char c) rest
  | mark {c part rest} (h : TemplatePart.ofMark? c = some part) : Token ('$' :: c :: rest) part rest
  | group {s g rest} (h : Refers value? scope s g rest) : Token ('$' :: s) (.group g) rest
  | dollar {s} (hmark : ∀ c ∈ s.head?, TemplatePart.ofMark? c = none)
      (hgroup : ∀ g rest, ¬ Refers value? scope s g rest) : Token ('$' :: s) (.char '$') s

/-- A template consists of parts. -/
inductive Reads : List Char → List TemplatePart → Prop where
  | nil : Reads [] []
  | cons {t part rest parts} (h : Token value? scope t part rest) (hrest : Reads rest parts) :
      Reads t (part :: parts)

/-- Where some part of a template begins, a dollar sign stands before a text with a property. -/
inductive Meets (P : List Char → Prop) : List Char → Prop where
  | here {s} (h : P s) : Meets P ('$' :: s)
  | behind {t part rest} (ht : Token value? scope t part rest) (h : Meets P rest) : Meets P t

end Grammar

variable {value? : Char → Option Nat} {scope : GroupScope} {P : List Char → Prop}
  {c : Char} {s t rest rest' : List Char} {part : TemplatePart} {parts : List TemplatePart}
  {a g g' : Nat}

/-! ## Every template has parts -/

theorem Refers.exists_append (h : Refers value? scope s g rest) : ∃ read, s = read ++ rest := by
  cases h with
  | two => exact ⟨[_, _], rfl⟩
  | one => exact ⟨[_], rfl⟩
  | @named _ name _ _ hs => exact ⟨'<' :: (name ++ ['>']), by simp [hs]⟩

/-- A part takes at least one character. -/
theorem Token.exists_append (h : Token value? scope t part rest) :
    ∃ c read, t = c :: (read ++ rest) := by
  cases h with
  | plain => exact ⟨_, [], rfl⟩
  | mark => exact ⟨_, [_], rfl⟩
  | group h =>
      obtain ⟨read, rfl⟩ := h.exists_append
      exact ⟨_, read, rfl⟩
  | dollar => exact ⟨_, [], rfl⟩

theorem Token.length_lt (h : Token value? scope t part rest) : rest.length < t.length := by
  obtain ⟨c, read, rfl⟩ := h.exists_append
  simp only [List.length_cons, List.length_append]
  omega

theorem exists_token (value? : Char → Option Nat) (scope : GroupScope) (c : Char) (s : List Char) :
    ∃ part rest, Token value? scope (c :: s) part rest := by
  by_cases hc : c = '$'
  · subst hc
    by_cases hgroup : ∃ g rest, Refers value? scope s g rest
    · obtain ⟨g, rest, h⟩ := hgroup
      exact ⟨_, _, .group h⟩
    · push Not at hgroup
      cases s with
      | nil => exact ⟨_, _, .dollar (by simp) hgroup⟩
      | cons d s =>
          cases hd : TemplatePart.ofMark? d with
          | some part => exact ⟨_, _, .mark hd⟩
          | none => exact ⟨_, _, .dollar (by simpa using hd) hgroup⟩
  · exact ⟨_, _, .plain hc⟩

theorem exists_reads (value? : Char → Option Nat) (scope : GroupScope) (t : List Char) :
    ∃ parts, Reads value? scope t parts := by
  induction hn : t.length using Nat.strongRecOn generalizing t with
  | ind n ih =>
      cases t with
      | nil => exact ⟨[], .nil⟩
      | cons c s =>
          obtain ⟨part, rest, h⟩ := exists_token value? scope c s
          obtain ⟨parts, hparts⟩ := ih rest.length (hn ▸ h.length_lt) rest rfl
          exact ⟨part :: parts, .cons h hparts⟩

/-! ## No template has other parts -/

theorem isDigitForm_of_decimal (h : decimalValue? c = some a) : isDigitForm c = true := by
  simp [isDigitForm, isDecimal, h]

theorem ofMark?_of_isDigitForm (h : isDigitForm c = true) : TemplatePart.ofMark? c = none := by
  unfold TemplatePart.ofMark?
  split
  case h_5 => rfl
  all_goals exact absurd h (by decide)

/-- A name in brackets ends at the first closing bracket. -/
theorem named?_eq_some_iff : scope.named? s = some (g, rest) ↔
    ∃ name, '>' ∉ name ∧ s = name ++ '>' :: rest ∧
      scope.names.lookup (String.ofList name) = some g := by
  rw [GroupScope.named?]
  constructor
  · intro h
    split at h
    · rename_i rest' hdrop
      obtain ⟨g', hlookup, hpair⟩ := Option.map_eq_some_iff.1 h
      cases hpair
      refine ⟨s.takeWhile (· != '>'), fun hmem => ?_, ?_, hlookup⟩
      · simpa using List.all_eq_true.1 List.all_takeWhile _ hmem
      · rw [← hdrop, List.takeWhile_append_dropWhile]
    · cases h
  · rintro ⟨name, hname, rfl, hlookup⟩
    have hbefore : ∀ x ∈ name, (x != '>') = true := by
      intro x hx
      simpa using fun heq : x = '>' => hname (heq ▸ hx)
    rw [List.dropWhile_append_of_pos hbefore, List.takeWhile_append_of_pos hbefore]
    simp [hlookup]

/-- Only digits have values, so that a number is never taken for a mark or a name. -/
def AreDigits (value? : Char → Option Nat) : Prop :=
  ∀ c a, value? c = some a → isDigitForm c = true

theorem AreDigits.ofMark? (h : AreDigits value?) (hc : value? c = some a) :
    TemplatePart.ofMark? c = none := ofMark?_of_isDigitForm (h c a hc)

theorem AreDigits.ne_bracket (h : AreDigits value?) (hc : value? c = some a) : c ≠ '<' := by
  rintro rfl
  exact absurd (h _ _ hc) (by decide)

/-- No reference begins with a mark. -/
theorem Refers.ofMark?_head (hdigits : AreDigits value?) (h : Refers value? scope (c :: s) g rest) :
    TemplatePart.ofMark? c = none := by
  cases h with
  | two hc => exact hdigits.ofMark? hc
  | one hc => exact hdigits.ofMark? hc
  | named => rfl

/-- Behind a bracket only a name is referred to. -/
theorem refers_bracket_iff (hdigits : AreDigits value?) :
    Refers value? scope ('<' :: s) g rest ↔ scope.named? s = some (g, rest) := by
  rw [named?_eq_some_iff]
  constructor
  · intro h
    cases h with
    | two hc => exact absurd rfl (hdigits.ne_bracket hc)
    | one hc => exact absurd rfl (hdigits.ne_bracket hc)
    | named hs hname hg => exact ⟨_, hname, hs, hg⟩
  · rintro ⟨name, hname, hs, hg⟩
    exact .named hs hname hg

theorem Refers.unique (hdigits : AreDigits value?) (h : Refers value? scope s g rest)
    (h' : Refers value? scope s g' rest') : g = g' ∧ rest = rest' := by
  cases h with
  | two hc hd _ hle =>
      cases h' with
      | two hc' hd' =>
          obtain rfl := Option.some.inj (hc.symm.trans hc')
          obtain rfl := Option.some.inj (hd.symm.trans hd')
          exact ⟨rfl, rfl⟩
      | one hc' _ _ halone =>
          obtain rfl := Option.some.inj (hc.symm.trans hc')
          have := halone _ _ rfl hd
          omega
      | named => exact absurd rfl (hdigits.ne_bracket hc)
  | one hc _ _ halone =>
      cases h' with
      | two hc' hd' _ hle' =>
          obtain rfl := Option.some.inj (hc.symm.trans hc')
          have := halone _ _ rfl hd'
          omega
      | one hc' => exact ⟨Option.some.inj (hc.symm.trans hc'), rfl⟩
      | named => exact absurd rfl (hdigits.ne_bracket hc)
  | named hs hname hg =>
      rw [refers_bracket_iff hdigits] at h'
      have hnamed := named?_eq_some_iff.2 ⟨_, hname, hs, hg⟩
      simpa using Option.some.inj (hnamed.symm.trans h')

theorem Token.unique (hdigits : AreDigits value?) {part' : TemplatePart}
    (h : Token value? scope t part rest) (h' : Token value? scope t part' rest') :
    part = part' ∧ rest = rest' := by
  cases h with
  | plain h =>
      cases h' with
      | plain => exact ⟨rfl, rfl⟩
      | mark => exact absurd rfl h
      | group => exact absurd rfl h
      | dollar => exact absurd rfl h
  | mark h =>
      cases h' with
      | plain h' => exact absurd rfl h'
      | mark h' => exact ⟨Option.some.inj (h.symm.trans h'), rfl⟩
      | group h' => cases h.symm.trans (h'.ofMark?_head hdigits)
      | dollar hmark => cases h.symm.trans (hmark _ rfl)
  | group h =>
      cases h' with
      | plain h' => exact absurd rfl h'
      | mark h' => cases h'.symm.trans (h.ofMark?_head hdigits)
      | group h' =>
          obtain ⟨rfl, rfl⟩ := h.unique hdigits h'
          exact ⟨rfl, rfl⟩
      | dollar _ hgroup => exact absurd h (hgroup _ _)
  | dollar hmark hgroup =>
      cases h' with
      | plain h' => exact absurd rfl h'
      | mark h' => cases h'.symm.trans (hmark _ rfl)
      | group h' => exact absurd h' (hgroup _ _)
      | dollar => exact ⟨rfl, rfl⟩

theorem Reads.unique (hdigits : AreDigits value?) {others : List TemplatePart}
    (h : Reads value? scope t parts) (h' : Reads value? scope t others) : others = parts := by
  induction h generalizing others with
  | nil =>
      cases h' with
      | nil => rfl
      | cons h' => nomatch h'.length_lt
  | cons h _ ih =>
      cases h' with
      | nil => nomatch h.length_lt
      | cons h' hrest' =>
          obtain ⟨rfl, rfl⟩ := h.unique hdigits h'
          rw [ih hrest']

theorem not_meets_nil : ¬ Meets value? scope P [] := nofun

/-- What a template meets, it meets at its first part or behind it. -/
theorem meets_iff_of_token (hdigits : AreDigits value?) (h : Token value? scope t part rest) :
    Meets value? scope P t ↔ (∃ s, t = '$' :: s ∧ P s) ∨ Meets value? scope P rest := by
  constructor
  · intro hmeets
    cases hmeets with
    | here hs => exact .inl ⟨_, rfl, hs⟩
    | behind h' hmeets =>
        obtain ⟨-, rfl⟩ := h.unique hdigits h'
        exact .inr hmeets
  · rintro (⟨s, rfl, hs⟩ | hmeets)
    · exact .here hs
    · exact .behind h hmeets

end Template

end FolderTag.Transform
