import FolderTag.Proofs.Text.Blank
import FolderTag.Text.Quoted
import Mathlib.Tactic.SplitIfs

/-! # Printable texts

Between quotes every character without a visible form is written as an escape, so that a quoted text
is printable whatever the text is. What is printable stands on one line. -/

namespace FolderTag.Text

variable {c : Char} {s t : List Char}

/-! ## Lines -/

/-- The characters that end a line. -/
def lineBreaks : List Char :=
  ['\n', '\x0b', '\x0c', '\r', '\x1c', '\x1d', '\x1e', '\x85', '\u2028', '\u2029']

/-- A text in which no line ends. -/
def IsOneLine (s : List Char) : Prop := ∀ c ∈ s, c ∉ lineBreaks

instance (s : List Char) : Decidable (IsOneLine s) := List.decidableBAll (· ∉ lineBreaks) s

@[simp] theorem isOneLine_nil : IsOneLine [] := List.forall_mem_nil _

@[simp] theorem isOneLine_cons_iff : IsOneLine (c :: s) ↔ c ∉ lineBreaks ∧ IsOneLine s :=
  List.forall_mem_cons

@[simp] theorem isOneLine_append_iff : IsOneLine (s ++ t) ↔ IsOneLine s ∧ IsOneLine t :=
  List.forall_mem_append

theorem isOneLine_joinWith_iff {sep : List Char} {ps : List (List Char)} (hsep : IsOneLine sep) :
    IsOneLine (joinWith sep ps) ↔ ∀ p ∈ ps, IsOneLine p := by
  cases ps with
  | nil => exact iff_of_true isOneLine_nil (List.forall_mem_nil _)
  | cons p ps =>
      have hrest : IsOneLine (ps.flatMap (sep ++ ·)) ↔ ∀ q ∈ ps, IsOneLine q := by
        induction ps with
        | nil => simp
        | cons q ps ih => simp [hsep, ih]
      rw [joinWith_cons, isOneLine_append_iff, hrest, List.forall_mem_cons]

/-- All line breaks are white space. -/
theorem isOneLine_of_forall_isBlank (h : ∀ c ∈ s, isBlank c = false) : IsOneLine s := by
  have hbreaks : ∀ c ∈ lineBreaks, isBlank c = true := List.all_eq_true.1 (by decide)
  intro c hc hmem
  have hblank := h c hc
  rw [hbreaks c hmem] at hblank
  cases hblank

/-! ## Printable characters -/

/-- A text of printable characters. -/
def IsPrintable (s : List Char) : Prop := ∀ c ∈ s, isPrintable c = true

instance (s : List Char) : Decidable (IsPrintable s) := List.decidableBAll (isPrintable · = true) s

@[simp] theorem isPrintable_nil : IsPrintable [] := List.forall_mem_nil _

@[simp] theorem isPrintable_cons_iff : IsPrintable (c :: s) ↔ isPrintable c = true ∧ IsPrintable s :=
  List.forall_mem_cons

@[simp] theorem isPrintable_append_iff : IsPrintable (s ++ t) ↔ IsPrintable s ∧ IsPrintable t :=
  List.forall_mem_append

/-- No line break has a visible form. -/
theorem IsPrintable.isOneLine (h : IsPrintable s) : IsOneLine s := by
  have hbreaks : lineBreaks.all (!isPrintable ·) = true := by decide +kernel
  intro c hc hmem
  have hhidden := List.all_eq_true.1 hbreaks c hmem
  rw [h c hc] at hhidden
  cases hhidden

theorem isPrintable_ite {p : Prop} [Decidable p] (hs : IsPrintable s) (ht : IsPrintable t) :
    IsPrintable (if p then s else t) := by
  split_ifs
  · exact hs
  · exact ht

theorem isPrintable_joinWith {sep : List Char} {ps : List (List Char)} (hsep : IsPrintable sep)
    (h : ∀ p ∈ ps, IsPrintable p) : IsPrintable (joinWith sep ps) := fun c hc =>
  (mem_joinWith hc).elim (hsep c) fun ⟨p, hp, hc⟩ => h p hp c hc

theorem isPrintable_replicate (hc : isPrintable c = true) (n : Nat) :
    IsPrintable (List.replicate n c) := fun d hd => by
  rwa [List.eq_of_mem_replicate hd]

theorem isPrintable_toDigits {base : Nat} (hbase : 1 < base) (hdigits : base ≤ 16) (n : Nat) :
    IsPrintable (Nat.toDigits base n) := by
  have hdigit : ∀ d < 16, isPrintable d.digitChar = true := by decide
  induction n using Nat.strongRecOn with
  | ind n ih =>
      rw [Nat.toDigits_eq_if hbase]
      split_ifs with hlt
      · simpa using hdigit n (by omega)
      · have hlast : n % base < base := Nat.mod_lt n (by omega)
        have hshorter : n / base < n := Nat.div_lt_self (by omega) hbase
        simpa using ⟨ih (n / base) hshorter, hdigit (n % base) (by omega)⟩

/-! ## Quoted texts -/

theorem isPrintable_hexDigits (width n : Nat) : IsPrintable (hexDigits width n) :=
  isPrintable_append_iff.2 ⟨isPrintable_replicate (by decide) _,
    isPrintable_toDigits (by decide) (by decide) n⟩

theorem isPrintable_quotedChar {quote : Char} (hquote : isPrintable quote = true) (c : Char) :
    IsPrintable (quotedChar quote c) := by
  have hslash : isPrintable '\\' = true := by decide
  have hcode : ∀ mark width, isPrintable mark = true →
      IsPrintable ('\\' :: mark :: hexDigits width c.toNat) := fun mark width hmark => by
    simp [hslash, hmark, isPrintable_hexDigits]
  rw [quotedChar]
  split_ifs with hescaped htab hline hreturn hprintable
  · rcases hescaped with rfl | rfl
    · simp [hslash, hquote]
    · simp [hslash]
  · decide
  · decide
  · decide
  · simpa using hprintable
  · exact hcode 'x' 2 (by decide)
  · exact hcode 'u' 4 (by decide)
  · exact hcode 'U' 8 (by decide)

/-- Whatever a text holds, it is printable between quotes. -/
theorem isPrintable_quoted (s : List Char) : IsPrintable (quoted s) := by
  have hquote : isPrintable (quoteFor s) = true := by
    rw [quoteFor]
    split_ifs <;> decide
  have hinside : IsPrintable (s.flatMap (quotedChar (quoteFor s))) := by
    intro d hd
    obtain ⟨c, -, hd⟩ := List.mem_flatMap.1 hd
    exact isPrintable_quotedChar hquote c d hd
  simp [quoted, hquote, hinside]

end FolderTag.Text
