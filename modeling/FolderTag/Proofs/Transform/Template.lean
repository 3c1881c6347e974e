import FolderTag.Proofs.Outcome
import FolderTag.Proofs.Transform.TemplateGrammar

/-! # How templates are read

A template is read part by part. Numbers are meant to be written with the ten ASCII digits, but the
reading looks for digits of any form and then for their decimal values: it stops at digits that have
none, and it takes the digits of other scripts for numbers. -/

namespace FolderTag.Transform

open FolderTag.Document FolderTag.Text

/-- The value of one of the ten ASCII digits. -/
def asciiValue? (c : Char) : Option Nat := if c.isDigit then some (c.toNat - 48) else none

namespace Template

variable {value? : Char → Option Nat} {scope : GroupScope} {P : List Char → Prop}
  {c : Char} {s t rest rest' : List Char} {part : TemplatePart} {parts : List TemplatePart}
  {a g fuel : Nat}

/-! ## Digits -/

theorem areDigits_decimal : AreDigits decimalValue? := fun _ _ => isDigitForm_of_decimal

theorem decimalValue?_of_isDigit (h : c.isDigit = true) :
    decimalValue? c = some (c.toNat - 48) := by
  have hbounds : 48 ≤ c.toNat ∧ c.toNat ≤ 57 := by
    simpa [Char.isDigit, UInt32.le_iff_toNat_le] using h
  have hfirst : (decide (48 ≤ c.toNat) && decide (c.toNat < 48 + 10)) = true := by
    simp only [Bool.and_eq_true, decide_eq_true_eq]
    omega
  rw [decimalValue?, decimalZeros, List.find?_cons, hfirst]
  rfl

/-- An ASCII digit has the same value among the digits of all scripts. -/
theorem decimalValue?_of_ascii (h : asciiValue? c = some a) : decimalValue? c = some a := by
  rw [asciiValue?] at h
  split at h
  · rename_i hc
    rw [decimalValue?_of_isDigit hc, h]
  · cases h

theorem areDigits_ascii : AreDigits asciiValue? :=
  fun _ _ h => isDigitForm_of_decimal (decimalValue?_of_ascii h)

theorem asciiValue?_of_decimal (hc : c.isDigit = true) (h : decimalValue? c = some a) :
    asciiValue? c = some a := by
  rw [asciiValue?, if_pos hc, ← decimalValue?_of_isDigit hc, h]

/-! ## The reading of references -/

/-- The digits of any form, two at most, with which a text begins. -/
def digitsOf (s : List Char) : List Char := (s.take 2).takeWhile isDigitForm

/-- A digit without a decimal value stands where a number is looked for. -/
def HasUndecimal (s : List Char) : Prop := ∃ c ∈ digitsOf s, decimalValue? c = none

theorem hasUndecimal_cons_iff : HasUndecimal (c :: s) ↔ isDigitForm c = true ∧
    (decimalValue? c = none ∨
      ∃ d, s.head? = some d ∧ isDigitForm d = true ∧ decimalValue? d = none) := by
  cases hc : isDigitForm c with
  | false => simp [HasUndecimal, digitsOf, hc]
  | true =>
      cases s with
      | nil => simp [HasUndecimal, digitsOf, hc]
      | cons d s => cases hd : isDigitForm d <;> simp [HasUndecimal, digitsOf, hc, hd]

theorem numbered?_one (h : decimalValue? c = some a) :
    scope.numbered? [c] = .ok (if 0 < a ∧ a ≤ scope.count then some a else none) := by
  simp [GroupScope.numbered?, isDigitForm_of_decimal h, h]

theorem numbered?_two {d : Char} {b : Nat} (hc : decimalValue? c = some a)
    (hd : decimalValue? d = some b) : scope.numbered? [c, d] =
      .ok (if 0 < 10 * a + b ∧ 10 * a + b ≤ scope.count then some (10 * a + b) else none) := by
  simp [GroupScope.numbered?, isDigitForm_of_decimal hc, isDigitForm_of_decimal hd, hc, hd]

theorem numbered?_of_not_digit (scope : GroupScope) (hmem : c ∈ s) (h : isDigitForm c = false) :
    scope.numbered? s = .ok none := by
  have hall : s.all isDigitForm = false := List.all_eq_false.2 ⟨c, hmem, by simp [h]⟩
  simp [GroupScope.numbered?, hall]

theorem numbered?_of_undecimal (scope : GroupScope) (hdigits : ∀ d ∈ s, isDigitForm d = true)
    (hmem : c ∈ s) (h : decimalValue? c = none) :
    scope.numbered? s = .error (.notDecimal (String.ofList s)) := by
  have hvalues : s.mapM decimalValue? = none := by
    induction s with
    | nil => cases hmem
    | cons d s ih =>
        rw [List.forall_mem_cons] at hdigits
        rw [List.mapM_cons]
        rcases List.mem_cons.1 hmem with rfl | hmem
        · rw [h]
          rfl
        · rw [ih hdigits.2 hmem]
          cases decimalValue? d <;> rfl
  have hall : s.all isDigitForm = true := List.all_eq_true.2 hdigits
  have hempty : s.isEmpty = false := List.isEmpty_eq_false_iff.2 (List.ne_nil_of_mem hmem)
  simp [GroupScope.numbered?, hall, hempty, hvalues]

theorem reference?_nil : scope.reference? [] = .ok none := rfl

theorem reference?_one (c : Char) :
    scope.reference? [c] = (·.map (·, 1)) <$> scope.numbered? [c] := by
  rw [GroupScope.reference?, if_pos (by simp), pure_bind, bind_pure_comp]
  rfl

theorem reference?_cons_cons (c d : Char) (s : List Char) :
    scope.reference? (c :: d :: s) = scope.numbered? [c, d] >>= fun
      | some n => pure (some (n, 2))
      | none => (·.map (·, 1)) <$> scope.numbered? [c] := by
  rw [GroupScope.reference?, if_neg (by simp)]
  rfl

/-- Digits without a decimal value stop the reading. -/
theorem reference?_of_undecimal (h : HasUndecimal s) :
    scope.reference? s = .error (.notDecimal (String.ofList (digitsOf s))) := by
  have hdigits : ∀ d ∈ digitsOf s, isDigitForm d = true := List.all_eq_true.1 List.all_takeWhile
  obtain ⟨u, hu, hnone⟩ := h
  have hstop := numbered?_of_undecimal scope hdigits hu hnone
  match s with
  | [] => simp [digitsOf] at hu
  | [c] =>
      cases hc : isDigitForm c with
      | false => simp [digitsOf, hc] at hu
      | true =>
          have hwindow : digitsOf [c] = [c] := by simp [digitsOf, hc]
          rw [hwindow] at hstop ⊢
          rw [reference?_one, hstop]
          rfl
  | c :: d :: s =>
      cases hc : isDigitForm c with
      | false => simp [digitsOf, hc] at hu
      | true =>
          cases hd : isDigitForm d with
          | false =>
              have hwindow : digitsOf (c :: d :: s) = [c] := by simp [digitsOf, hc, hd]
              rw [hwindow] at hstop ⊢
              rw [reference?_cons_cons, numbered?_of_not_digit scope (by simp) hd, ok_bind, hstop]
              rfl
          | true =>
              have hwindow : digitsOf (c :: d :: s) = [c, d] := by simp [digitsOf, hc, hd]
              rw [hwindow] at hstop ⊢
              rw [reference?_cons_cons, hstop, error_bind]

/-- A second character makes no number with the first where it is no digit, or where the number is
too large. -/
theorem reference?_of_alone {d : Char} (hclear : ¬ HasUndecimal (c :: d :: s))
    (hc : decimalValue? c = some a)
    (halone : ∀ b, decimalValue? d = some b → ¬ (0 < 10 * a + b ∧ 10 * a + b ≤ scope.count)) :
    scope.reference? (c :: d :: s) = (·.map (·, 1)) <$> scope.numbered? [c] := by
  have htwo : scope.numbered? [c, d] = .ok none := by
    cases hd : isDigitForm d with
    | false => exact numbered?_of_not_digit scope (by simp) hd
    | true =>
        cases hvalue : decimalValue? d with
        | none =>
            refine absurd (hasUndecimal_cons_iff.2 ⟨isDigitForm_of_decimal hc, .inr ?_⟩) hclear
            exact ⟨d, rfl, hd, hvalue⟩
        | some b => rw [numbered?_two hc hvalue, if_neg (halone b hvalue)]
  rw [reference?_cons_cons, htwo, ok_bind]

/-- A reference by number is read as such. -/
theorem reference?_of_refers (hs : s.head? ≠ some '<') (hclear : ¬ HasUndecimal s)
    (h : Refers decimalValue? scope s g rest) :
    ∃ n, scope.reference? s = .ok (some (g, n)) ∧ s.drop n = rest := by
  cases h with
  | two hc hd hpos hle =>
      refine ⟨2, ?_, rfl⟩
      rw [reference?_cons_cons, numbered?_two hc hd, if_pos ⟨hpos, hle⟩]
      rfl
  | @one c _ _ hc hpos hle halone =>
      refine ⟨1, ?_, rfl⟩
      have hone : scope.reference? (c :: rest) = (·.map (·, 1)) <$> scope.numbered? [c] := by
        cases rest with
        | nil => exact reference?_one c
        | cons d rest =>
            refine reference?_of_alone hclear hc fun b hb hrange => ?_
            have := halone d b rfl hb
            omega
      rw [hone, numbered?_one hc, if_pos ⟨hpos, hle⟩]
      rfl
  | named => exact absurd rfl hs

theorem reference?_of_not_refers (hclear : ¬ HasUndecimal s)
    (h : ∀ g rest, ¬ Refers decimalValue? scope s g rest) : scope.reference? s = .ok none := by
  cases s with
  | nil => exact reference?_nil
  | cons c s =>
      cases hvalue : decimalValue? c with
      | none =>
          have hc : isDigitForm c = false := by
            by_contra hdigit
            exact hclear (hasUndecimal_cons_iff.2 ⟨by simpa using hdigit, .inl hvalue⟩)
          have hone := numbered?_of_not_digit scope (List.mem_singleton.2 rfl) hc
          cases s with
          | nil => rw [reference?_one, hone, map_ok, Option.map_none]
          | cons d s =>
              have htwo := numbered?_of_not_digit scope (List.mem_cons_self (l := [d])) hc
              rw [reference?_cons_cons, htwo, ok_bind, hone, map_ok, Option.map_none]
      | some a =>
          have hone : scope.reference? (c :: s) = (·.map (·, 1)) <$> scope.numbered? [c] := by
            cases s with
            | nil => exact reference?_one c
            | cons d s =>
                exact reference?_of_alone hclear hvalue fun b hb hrange =>
                  h _ _ (.two hvalue hb hrange.1 hrange.2)
          have hrange : ¬ (0 < a ∧ a ≤ scope.count) := by
            rintro ⟨hpos, hle⟩
            refine h _ _ (.one hvalue hpos hle fun d b hd hb => ?_)
            obtain ⟨s, rfl⟩ := List.head?_eq_some_iff.1 hd
            by_contra hlarge
            exact h _ _ (.two hvalue hb (by omega) (by omega))
          rw [hone, numbered?_one hvalue, if_neg hrange, map_ok, Option.map_none]

/-! ## The reading of parts -/

theorem readParts_nil (fuel : Nat) : readParts scope fuel [] = .ok [] := by
  cases fuel <;> rfl

theorem readParts_name (fuel : Nat) (s : List Char) :
    readParts scope (fuel + 1) ('$' :: '<' :: s) =
      match scope.named? s with
      | some (g, rest) => (.group g :: ·) <$> readParts scope fuel rest
      | none => (.char '$' :: ·) <$> readParts scope fuel ('<' :: s) := by
  rw [readParts]
  cases scope.named? s <;> simp only [bind_pure_comp]

theorem readParts_number (fuel : Nat) (s : List Char) (hmark : TemplatePart.ofMark? c = none)
    (hc : c ≠ '<') :
    readParts scope (fuel + 1) ('$' :: c :: s) = scope.reference? (c :: s) >>= fun
      | some (g, n) => (.group g :: ·) <$> readParts scope fuel ((c :: s).drop n)
      | none => (.char '$' :: ·) <$> readParts scope fuel (c :: s) := by
  rw [readParts]
  · refine bind_congr fun found => ?_
    rcases found with _ | ⟨g, n⟩ <;> simp only [bind_pure_comp]
  · nofun
  all_goals
    rintro _ h
    cases h
    first | exact hc rfl | cases hmark

/-- A part is read where no digit stops the reading. -/
theorem readParts_of_token (h : Token decimalValue? scope t part rest)
    (hclear : ∀ s, t = '$' :: s → ¬ HasUndecimal s) (fuel : Nat) :
    readParts scope (fuel + 1) t = (part :: ·) <$> readParts scope fuel rest := by
  cases h with
  | plain h =>
      rw [readParts, bind_pure_comp]
      all_goals simp [h]
  | @mark c _ _ h =>
      unfold TemplatePart.ofMark? at h
      split at h
      case h_5 => cases h
      all_goals
        cases h
        rw [readParts, bind_pure_comp]
  | @group s g _ h =>
      cases s with
      | nil => nomatch h
      | cons c s =>
          by_cases hc : c = '<'
          · subst hc
            rw [readParts_name, (refers_bracket_iff areDigits_decimal).1 h]
          · obtain ⟨n, href, hdrop⟩ :=
              reference?_of_refers (by simpa using hc) (hclear _ rfl) h
            rw [readParts_number fuel s (h.ofMark?_head areDigits_decimal) hc, href, ok_bind,
              ← hdrop]
  | dollar hmark hgroup =>
      cases rest with
      | nil =>
          rw [readParts_nil]
          rfl
      | cons c s =>
          by_cases hc : c = '<'
          · subst hc
            have hnone : scope.named? s = none := by
              rw [Option.eq_none_iff_forall_ne_some]
              rintro ⟨g, rest⟩ hnamed
              exact hgroup g rest ((refers_bracket_iff areDigits_decimal).2 hnamed)
            rw [readParts_name, hnone]
          · rw [readParts_number fuel s (hmark c rfl) hc,
              reference?_of_not_refers (hclear _ rfl) hgroup, ok_bind]

theorem readParts_of_undecimal (h : HasUndecimal s) (fuel : Nat) :
    readParts scope (fuel + 1) ('$' :: s) = .error (.notDecimal (String.ofList (digitsOf s))) := by
  cases s with
  | nil => simp [HasUndecimal, digitsOf] at h
  | cons c s =>
      have hc : isDigitForm c = true := (hasUndecimal_cons_iff.1 h).1
      have hbracket : c ≠ '<' := by
        rintro rfl
        exact absurd hc (by decide)
      rw [readParts_number fuel s (ofMark?_of_isDigitForm hc) hbracket, reference?_of_undecimal h,
        error_bind]

/-! ## The reading of templates -/

/-- A template is read to its end, with the digits of all scripts in its numbers, unless a digit
without a decimal value is met. -/
theorem readParts_of_reads (h : Reads decimalValue? scope t parts) (hfuel : t.length ≤ fuel) :
    (¬ Meets decimalValue? scope HasUndecimal t → readParts scope fuel t = .ok parts) ∧
    (Meets decimalValue? scope HasUndecimal t →
      ∃ digits, readParts scope fuel t = .error (.notDecimal digits)) := by
  induction h generalizing fuel with
  | nil => exact ⟨fun _ => readParts_nil fuel, fun h => absurd h not_meets_nil⟩
  | @cons t part rest parts h _ ih =>
      have hlength := h.length_lt
      cases fuel with
      | zero => omega
      | succ fuel =>
          have hmeets := meets_iff_of_token (P := HasUndecimal) areDigits_decimal h
          have hrest := ih (show rest.length ≤ fuel by omega)
          by_cases hstop : ∃ s, t = '$' :: s ∧ HasUndecimal s
          · refine ⟨fun hnot => absurd (hmeets.2 (.inl hstop)) hnot, fun _ => ?_⟩
            obtain ⟨s, rfl, hs⟩ := hstop
            exact ⟨_, readParts_of_undecimal hs fuel⟩
          · rw [hmeets, or_iff_right hstop]
            have hclear : ∀ s, t = '$' :: s → ¬ HasUndecimal s := fun s ht hs => hstop ⟨s, ht, hs⟩
            rw [readParts_of_token h hclear]
            refine ⟨fun hnot => ?_, fun hlater => ?_⟩
            · rw [hrest.1 hnot, map_ok]
            · obtain ⟨digits, hdigits⟩ := hrest.2 hlater
              exact ⟨digits, by rw [hdigits]; rfl⟩

/-! ## Digits of other scripts -/

/-- Behind a dollar sign, a digit of another form or script is taken for one of a number. -/
def IsMisread (scope : GroupScope) (s : List Char) : Prop :=
  HasUndecimal s ∨
    ∃ g rest, Refers decimalValue? scope s g rest ∧ ¬ Refers asciiValue? scope s g rest

theorem Refers.exists_decimal (h : Refers asciiValue? scope s g rest) :
    ∃ g rest, Refers decimalValue? scope s g rest := by
  cases h with
  | two hc hd hpos hle =>
      exact ⟨_, _, .two (decimalValue?_of_ascii hc) (decimalValue?_of_ascii hd) hpos hle⟩
  | one hc hpos hle halone =>
      by_cases htwo : ∃ d b, rest.head? = some d ∧ decimalValue? d = some b ∧
          10 * g + b ≤ scope.count
      · obtain ⟨d, b, hd, hb, hle⟩ := htwo
        obtain ⟨rest, rfl⟩ := List.head?_eq_some_iff.1 hd
        exact ⟨_, _, .two (decimalValue?_of_ascii hc) hb (by omega) hle⟩
      · refine ⟨_, _, .one (decimalValue?_of_ascii hc) hpos hle fun d b hd hb => ?_⟩
        by_contra hle
        exact htwo ⟨d, b, hd, hb, by omega⟩
  | named hs hname hg => exact ⟨_, _, .named hs hname hg⟩

/-- The same group is not referred to in two ways. -/
theorem Refers.rest_eq (h : Refers asciiValue? scope s g rest)
    (h' : Refers decimalValue? scope s g rest') : rest = rest' := by
  have hvalue : ∀ {c a b}, asciiValue? c = some a → decimalValue? c = some b → a = b :=
    fun ha hb => Option.some.inj ((decimalValue?_of_ascii ha).symm.trans hb)
  generalize hg : g = g' at h'
  cases h with
  | two hc hd _ hle =>
      cases h' with
      | two => rfl
      | one hc' _ _ halone' =>
          have := halone' _ _ rfl (decimalValue?_of_ascii hd)
          have := hvalue hc hc'
          omega
      | named => exact absurd rfl (areDigits_ascii.ne_bracket hc)
  | one hc hpos =>
      cases h' with
      | two hc' =>
          have := hvalue hc hc'
          omega
      | one => rfl
      | named => exact absurd rfl (areDigits_ascii.ne_bracket hc)
  | named hs hname hlookup =>
      have hnamed := (refers_bracket_iff areDigits_decimal).1 h'
      rw [named?_eq_some_iff.2 ⟨_, hname, hs, hlookup⟩] at hnamed
      simpa using congrArg (Option.map Prod.snd) hnamed

/-- Where nothing is misread, the first part is the one of the grammar. -/
theorem Token.decimal (h : Token asciiValue? scope t part rest)
    (hkeeps : ∀ s, t = '$' :: s → ¬ IsMisread scope s) : Token decimalValue? scope t part rest := by
  have hascii : ∀ s, t = '$' :: s → ∀ g rest, Refers decimalValue? scope s g rest →
      Refers asciiValue? scope s g rest := by
    intro s hs g rest href
    by_contra hnot
    exact hkeeps s hs (.inr ⟨g, rest, href, hnot⟩)
  cases h with
  | plain h => exact .plain h
  | mark h => exact .mark h
  | group h =>
      obtain ⟨g', rest', h'⟩ := h.exists_decimal
      obtain ⟨rfl, rfl⟩ := h.unique areDigits_ascii (hascii _ rfl _ _ h')
      exact .group h'
  | dollar hmark hgroup => exact .dollar hmark fun g rest h => hgroup g rest (hascii _ rfl g rest h)

/-- A part that is misread is not the one of the grammar. -/
theorem readParts_ne_of_isMisread (h : Token asciiValue? scope ('$' :: s) part rest)
    (hs : IsMisread scope s) (fuel : Nat) (parts : List TemplatePart) :
    readParts scope (fuel + 1) ('$' :: s) ≠ .ok (part :: parts) := by
  intro hread
  by_cases hundecimal : HasUndecimal s
  · rw [readParts_of_undecimal hundecimal] at hread
    cases hread
  · obtain ⟨g, rest', href, hnot⟩ := hs.resolve_left hundecimal
    have hclear : ∀ s', '$' :: s = '$' :: s' → ¬ HasUndecimal s' := by
      rintro s' ⟨⟩
      exact hundecimal
    rw [readParts_of_token (.group href) hclear] at hread
    obtain ⟨others, -, heq⟩ := map_eq_ok_iff.1 hread
    obtain ⟨rfl, rfl⟩ := List.cons.inj heq
    cases h with
    | mark h => cases h.symm.trans (href.ofMark?_head areDigits_decimal)
    | group h =>
        obtain rfl := h.rest_eq href
        exact hnot h

/-- A template is read as the grammar has it exactly where nothing is misread. -/
theorem readParts_eq_ok_iff (h : Reads asciiValue? scope t parts) (hfuel : t.length ≤ fuel) :
    readParts scope fuel t = .ok parts ↔ ¬ Meets asciiValue? scope (IsMisread scope) t := by
  induction h generalizing fuel with
  | nil => exact iff_of_true (readParts_nil fuel) not_meets_nil
  | @cons t part rest parts h _ ih =>
      have hlength := h.length_lt
      cases fuel with
      | zero => omega
      | succ fuel =>
          rw [meets_iff_of_token areDigits_ascii h, not_or]
          by_cases hmisread : ∃ s, t = '$' :: s ∧ IsMisread scope s
          · refine iff_of_false ?_ fun hnot => hnot.1 hmisread
            obtain ⟨s, rfl, hs⟩ := hmisread
            exact readParts_ne_of_isMisread h hs fuel parts
          · have hkeeps : ∀ s, t = '$' :: s → ¬ IsMisread scope s :=
              fun s ht hs => hmisread ⟨s, ht, hs⟩
            rw [readParts_of_token (h.decimal hkeeps) fun s ht hs => hkeeps s ht (.inl hs),
              map_eq_ok_iff, and_iff_right hmisread, ← ih (show rest.length ≤ fuel by omega)]
            simp

theorem mem_of_mem_digitsOf (h : c ∈ digitsOf s) : c ∈ s ∧ isDigitForm c = true :=
  ⟨List.mem_of_mem_take ((List.takeWhile_sublist _).subset h),
    List.all_eq_true.1 List.all_takeWhile c h⟩

/-- A text whose digits are ASCII digits is not misread. -/
theorem not_isMisread_of_ascii (h : ∀ c ∈ s, isDigitForm c = true → c.isDigit = true) :
    ¬ IsMisread scope s := by
  have hvalue : ∀ {c a}, c ∈ s → decimalValue? c = some a → asciiValue? c = some a :=
    fun hc ha => asciiValue?_of_decimal (h _ hc (isDigitForm_of_decimal ha)) ha
  rintro (⟨c, hc, hnone⟩ | ⟨g, rest, href, hnot⟩)
  · obtain ⟨hmem, hform⟩ := mem_of_mem_digitsOf hc
    rw [decimalValue?_of_isDigit (h c hmem hform)] at hnone
    cases hnone
  · refine hnot ?_
    cases href with
    | two hc hd hpos hle => exact .two (hvalue (by simp) hc) (hvalue (by simp) hd) hpos hle
    | one hc hpos hle halone =>
        exact .one (hvalue (by simp) hc) hpos hle fun d b hd hb =>
          halone d b hd (decimalValue?_of_ascii hb)
    | named hs hname hg => exact .named hs hname hg

theorem not_meets_of_forall (h : ∀ s, s ⊆ t → ¬ P s) : ¬ Meets value? scope P t := by
  intro hmeets
  induction hmeets with
  | here hs => exact h _ (List.subset_cons_self _ _) hs
  | behind ht _ ih =>
      obtain ⟨c, read, rfl⟩ := ht.exists_append
      exact ih fun s hs =>
        h s (List.Subset.trans hs (List.subset_cons_of_subset c (List.subset_append_right read _)))

/-! ## The law of templates -/

/-- What comes of reading a template, of which the grammar makes `parts`. -/
structure Accounts (scope : GroupScope) (template : List Char) (parts : List TemplatePart) :
    Prop where
  /-- By the grammar, only the ten ASCII digits make numbers. -/
  reads : Reads asciiValue? scope template parts
  unique : ∀ others, Reads asciiValue? scope template others → others = parts
  /-- The template is read by the grammar exactly where no digit of another form or script is taken
  for one of a number. -/
  keeps_iff : readTemplate scope template = .ok parts ↔
    ¬ Meets asciiValue? scope (IsMisread scope) template
  /-- What else can come out is read by the same grammar with the digits of all scripts. -/
  reads_decimal : ∀ others, readTemplate scope template = .ok others →
    Reads decimalValue? scope template others
  /-- The reading stops exactly where a digit without a decimal value stands in the place of a
  number. -/
  stops_iff : ∀ m, (∃ cause, expand scope template m = .error cause) ↔
    Meets decimalValue? scope HasUndecimal template
  stops_with : ∀ m cause, expand scope template m = .error cause →
    ∃ digits, cause = .notDecimal digits
  /-- A template whose digits are ASCII digits is read by the grammar. -/
  expands : (∀ c ∈ template, isDigitForm c = true → c.isDigit = true) → ∀ m,
    expand scope template m = .ok (parts.flatMap (·.text m))

end Template

open Template

theorem expand_eq (scope : GroupScope) (template : List Char) (m : Regex.Match) :
    expand scope template m = (·.flatMap (·.text m)) <$> readTemplate scope template := by
  rw [expand, bind_pure_comp]

/-- Every template is read by the grammar, unless digits of other forms or scripts stand in the
place of a number. -/
theorem readTemplate_accounts (scope : GroupScope) (template : List Char) :
    ∃ parts, Accounts scope template parts := by
  obtain ⟨parts, hparts⟩ := exists_reads asciiValue? scope template
  obtain ⟨others, hothers⟩ := exists_reads decimalValue? scope template
  obtain ⟨hread, hstop⟩ := readParts_of_reads hothers (Nat.le_refl _)
  have hkeeps := readParts_eq_ok_iff hparts (Nat.le_refl _)
  refine ⟨parts, ?_⟩
  constructor
  case reads => exact hparts
  case unique => exact fun others h => hparts.unique areDigits_ascii h
  case keeps_iff => exact hkeeps
  case reads_decimal =>
    intro read h
    by_cases hmeets : Meets decimalValue? scope HasUndecimal template
    · obtain ⟨digits, hdigits⟩ := hstop hmeets
      cases hdigits.symm.trans h
    · obtain rfl := Except.ok.inj ((hread hmeets).symm.trans h)
      exact hothers
  case stops_iff =>
    intro m
    rw [expand_eq, readTemplate]
    by_cases hmeets : Meets decimalValue? scope HasUndecimal template
    · obtain ⟨digits, hdigits⟩ := hstop hmeets
      exact iff_of_true ⟨_, by rw [hdigits]; rfl⟩ hmeets
    · refine iff_of_false ?_ hmeets
      rw [hread hmeets]
      nofun
  case stops_with =>
    intro m cause h
    rw [expand_eq, readTemplate] at h
    by_cases hmeets : Meets decimalValue? scope HasUndecimal template
    · obtain ⟨digits, hdigits⟩ := hstop hmeets
      rw [hdigits] at h
      exact ⟨digits, (Except.error.inj h).symm⟩
    · rw [hread hmeets] at h
      cases h
  case expands =>
    intro hascii m
    have hclear : ¬ Meets asciiValue? scope (IsMisread scope) template :=
      not_meets_of_forall fun s hs => not_isMisread_of_ascii fun c hc => hascii c (hs hc)
    rw [expand_eq, readTemplate, hkeeps.2 hclear, map_ok]

example : readTemplate ⟨12, [("n", 2)]⟩ "$12$123$$1$<$<n>$99".toList = .ok
    [.group 12, .group 12, .char '3', .char '$', .char '1', .char '$', .char '<', .group 2,
      .group 9, .char '9'] := rfl

/-- A superscript behind a dollar sign stops the reading, and a digit of another script is taken for
the number of a group, where both should leave the dollar sign as it is. -/
theorem readTemplate_misreads_digits :
    Reads asciiValue? ⟨1, []⟩ "$²".toList [.char '$', .char '²'] ∧
    readTemplate ⟨1, []⟩ "$²".toList = .error (.notDecimal "²") ∧
    Reads asciiValue? ⟨1, []⟩ "$١".toList [.char '$', .char '١'] ∧
    readTemplate ⟨1, []⟩ "$١".toList = .ok [.group 1] := by
  have hliteral : ∀ c, c ≠ '$' → c ≠ '<' → TemplatePart.ofMark? c = none → asciiValue? c = none →
      Reads asciiValue? ⟨1, []⟩ ['$', c] [.char '$', .char c] := by
    intro c hdollar hbracket hmark hvalue
    refine .cons (.dollar (by simpa using hmark) fun g rest h => ?_) (.cons (.plain hdollar) .nil)
    cases h with
    | one hc => cases hvalue.symm.trans hc
    | named => exact hbracket rfl
  exact ⟨hliteral '²' (by decide) (by decide) rfl (by decide), rfl,
    hliteral '١' (by decide) (by decide) rfl (by decide), rfl⟩

end FolderTag.Transform
