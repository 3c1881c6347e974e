import FolderTag.Document.Display
import FolderTag.Proofs.Text.Printable

/-! # Shown values are printable

Numbers, days and moments are shown with digits and a few signs, and texts inside of containers
between quotes. So every value but a text that stands alone is shown with printable characters. -/

namespace FolderTag.Document

open FolderTag.Text

/-! ## Numbers -/

theorem isPrintable_digits (n : Nat) : IsPrintable (Nat.toDigits 10 n) :=
  isPrintable_toDigits (by decide) (by decide) n

theorem isPrintable_paddedDigits (width n : Nat) : IsPrintable (paddedDigits width n) :=
  isPrintable_append_iff.2 ⟨isPrintable_replicate (by decide) _, isPrintable_digits n⟩

theorem isPrintable_minus (p : Prop) [Decidable p] : IsPrintable (if p then ['-'] else []) :=
  isPrintable_ite (by decide) isPrintable_nil

theorem isPrintable_intText (n : Int) : IsPrintable (intText n) :=
  isPrintable_append_iff.2 ⟨isPrintable_minus _, isPrintable_digits _⟩

theorem isPrintable_layout {digits : List Char} (h : IsPrintable digits) (point : Int) :
    IsPrintable (Number.layout digits point) := by
  have htake : ∀ n, IsPrintable (digits.take n) := fun n c hc => h c (List.mem_of_mem_take hc)
  have hdrop : ∀ n, IsPrintable (digits.drop n) := fun n c hc => h c (List.mem_of_mem_drop hc)
  have hzero : isPrintable '0' = true := by decide
  have hpoint : isPrintable '.' = true := by decide
  have hzeros : ∀ n, IsPrintable (List.replicate n '0') := isPrintable_replicate hzero
  rw [Number.layout]
  split_ifs with hexponent hsmall hwhole
  · have hfraction : IsPrintable (if digits.drop 1 = [] then [] else '.' :: digits.drop 1) :=
      isPrintable_ite isPrintable_nil (isPrintable_cons_iff.2 ⟨hpoint, hdrop 1⟩)
    have hsign : IsPrintable ['e', if point - 1 < 0 then '-' else '+'] := by
      split_ifs <;> decide
    have hdigits := isPrintable_digits (point - 1).natAbs
    have hpadded := isPrintable_cons_iff.2 ⟨hzero, hdigits⟩
    exact isPrintable_append_iff.2 ⟨isPrintable_append_iff.2 ⟨isPrintable_append_iff.2
      ⟨htake 1, hfraction⟩, hsign⟩, isPrintable_ite hpadded hdigits⟩
  · simp [hzero, hpoint, hzeros, h]
  · simp [hzero, hpoint, hzeros, h]
  · simp [hpoint, htake, hdrop]

theorem isPrintable_floatText (x : Float) : IsPrintable (Number.floatText x) := by
  have hdigits : ∀ n t, IsPrintable (Number.layout (Nat.toDigits 10 n) t) := fun n t =>
    isPrintable_layout (isPrintable_digits n) t
  have hsign := isPrintable_minus (Number.isNegative x = true)
  have hsigned : ∀ {s}, IsPrintable s →
      IsPrintable ((if Number.isNegative x then ['-'] else []) ++ s) := fun hs =>
    isPrintable_append_iff.2 ⟨hsign, hs⟩
  exact isPrintable_ite (by decide) (isPrintable_ite (hsigned (by decide))
    (isPrintable_ite (hsigned (by decide)) (hsigned (hdigits _ _))))

/-! ## Days and moments -/

theorem isPrintable_commaSeparated {parts : List (List Char)} (h : ∀ p ∈ parts, IsPrintable p) :
    IsPrintable (commaSeparated parts) := isPrintable_joinWith (by decide) h

theorem Day.isPrintable_text (d : Day) : IsPrintable d.text := by
  have hyphen : isPrintable '-' = true := by decide
  simp [Day.text, hyphen, isPrintable_paddedDigits]

theorem isPrintable_offsetText (seconds : Int) : IsPrintable (offsetText seconds) := by
  have hcolon : isPrintable ':' = true := by decide
  have hsign : isPrintable (if seconds < 0 then '-' else '+') = true := by
    split_ifs <;> decide
  have hseconds : ∀ n, IsPrintable (if n = 0 then [] else ':' :: paddedDigits 2 n) := fun n =>
    isPrintable_ite isPrintable_nil
      (isPrintable_cons_iff.2 ⟨hcolon, isPrintable_paddedDigits 2 n⟩)
  simp [offsetText, hsign, hcolon, hseconds, isPrintable_paddedDigits]

theorem Moment.isPrintable_text (m : Moment) : IsPrintable m.text := by
  have hblank : isPrintable ' ' = true := by decide
  have hcolon : isPrintable ':' = true := by decide
  have hfraction : IsPrintable
      (if m.microsecond = 0 then [] else '.' :: paddedDigits 6 m.microsecond) :=
    isPrintable_ite isPrintable_nil
      (isPrintable_cons_iff.2 ⟨by decide, isPrintable_paddedDigits 6 _⟩)
  have hoffset : IsPrintable ((m.offset.map offsetText).getD []) := by
    cases m.offset with
    | none => exact isPrintable_nil
    | some o => exact isPrintable_offsetText o
  simp [Moment.text, hblank, hcolon, hfraction, hoffset, m.day.isPrintable_text,
    isPrintable_paddedDigits]

theorem isPrintable_offsetForm (seconds : Int) : IsPrintable (offsetForm seconds) := by
  have hpart : ∀ (name : String) (n : Int), IsPrintable name.toList →
      ∀ p ∈ if n = 0 then [] else [name.toList ++ intText n], IsPrintable p := by
    intro name n hname
    split_ifs
    · exact List.forall_mem_nil _
    · exact List.forall_mem_singleton.2 (isPrintable_append_iff.2 ⟨hname, isPrintable_intText n⟩)
  have hparts := isPrintable_commaSeparated (List.forall_mem_append.2
    ⟨hpart "days=" (seconds.fdiv 86400) (by decide),
      hpart "seconds=" (seconds.fmod 86400) (by decide)⟩)
  rw [offsetForm]
  split_ifs
  · decide
  · exact isPrintable_append_iff.2 ⟨isPrintable_append_iff.2 ⟨by decide, hparts⟩,
      by decide⟩

theorem Day.isPrintable_constructorForm (d : Day) : IsPrintable d.constructorForm := by
  have hparts : IsPrintable (commaSeparated [intText d.year, intText d.month, intText d.day]) :=
    isPrintable_commaSeparated (by simp [isPrintable_intText])
  exact isPrintable_append_iff.2 ⟨isPrintable_append_iff.2 ⟨by decide, hparts⟩,
    by decide⟩

theorem Moment.isPrintable_constructorForm (m : Moment) : IsPrintable m.constructorForm := by
  have hday : ∀ p ∈ [intText m.day.year, intText m.day.month, intText m.day.day],
      IsPrintable p := by simp [isPrintable_intText]
  have hhour : ∀ p ∈ [intText m.hour, intText m.minute], IsPrintable p := by
    simp [isPrintable_intText]
  have hseconds : ∀ p ∈ if m.second = 0 ∧ m.microsecond = 0 then []
      else intText m.second :: if m.microsecond = 0 then [] else [intText m.microsecond],
      IsPrintable p := by
    split_ifs <;> simp [isPrintable_intText]
  have hzone : ∀ p ∈ (m.offset.map fun o => ["tzinfo=".toList ++ offsetForm o]).getD [],
      IsPrintable p := by
    have hname : IsPrintable "tzinfo=".toList := by decide
    cases m.offset with
    | none => exact List.forall_mem_nil _
    | some o =>
        exact List.forall_mem_singleton.2
          (isPrintable_append_iff.2 ⟨hname, isPrintable_offsetForm o⟩)
  have hparts := isPrintable_commaSeparated (List.forall_mem_append.2
    ⟨List.forall_mem_append.2 ⟨hday, List.forall_mem_append.2 ⟨hhour, hseconds⟩⟩, hzone⟩)
  exact isPrintable_append_iff.2 ⟨isPrintable_append_iff.2 ⟨by decide, hparts⟩,
    by decide⟩

/-! ## Values -/

theorem isPrintable_between {opening closing : Char} {parts : List (List Char)}
    (hopening : isPrintable opening = true) (hclosing : isPrintable closing = true)
    (h : ∀ p ∈ parts, IsPrintable p) :
    IsPrintable (opening :: (commaSeparated parts ++ [closing])) := by
  simp [hopening, hclosing, isPrintable_commaSeparated h]

mutual

/-- A value is printable inside of a container. -/
theorem Value.isPrintable_quoted (v : Value) : IsPrintable v.quoted := by
  match v with
  | .null => decide
  | .bool true => decide
  | .bool false => decide
  | .int n => exact isPrintable_intText n
  | .float x => exact isPrintable_floatText x
  | .text s => exact Text.isPrintable_quoted s.toList
  | .list items =>
      exact isPrintable_between (by decide) (by decide)
        (isPrintable_of_mem_quotedItems items)
  | .map entries =>
      exact isPrintable_between (by decide) (by decide)
        (isPrintable_of_mem_quotedEntries entries)
  | .day d => exact d.isPrintable_constructorForm
  | .moment m => exact m.isPrintable_constructorForm

theorem isPrintable_of_mem_quotedItems (items : List Value) :
    ∀ p ∈ quotedItems items, IsPrintable p := by
  match items with
  | [] => exact List.forall_mem_nil _
  | v :: vs =>
      rw [quotedItems, List.forall_mem_cons]
      exact ⟨v.isPrintable_quoted, isPrintable_of_mem_quotedItems vs⟩

theorem isPrintable_of_mem_quotedEntries (entries : List (Value × Value)) :
    ∀ p ∈ quotedEntries entries, IsPrintable p := by
  match entries with
  | [] => exact List.forall_mem_nil _
  | (k, v) :: rest =>
      have hcolon : isPrintable ':' = true := by decide
      have hblank : isPrintable ' ' = true := by decide
      have hentry : IsPrintable (k.quoted ++ ':' :: ' ' :: v.quoted) := by
        simp [hcolon, hblank, k.isPrintable_quoted, v.isPrintable_quoted]
      rw [quotedEntries, List.forall_mem_cons]
      exact ⟨hentry, isPrintable_of_mem_quotedEntries rest⟩

end

/-- A value that stands alone is printable if it is no text. -/
theorem Value.isPrintable_shown {v : Value} (h : v.text? = none) : IsPrintable v.shown := by
  match v with
  | .text s => cases h
  | .day d => exact d.isPrintable_text
  | .moment m => exact m.isPrintable_text
  | .null | .bool _ | .int _ | .float _ | .list _ | .map _ => exact Value.isPrintable_quoted _

end FolderTag.Document
