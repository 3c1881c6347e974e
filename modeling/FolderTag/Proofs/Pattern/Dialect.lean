import FolderTag.Pattern.Dialect
import Mathlib.Data.List.Induction
import Mathlib.Data.Nat.Digits.Defs
import Mathlib.Tactic.SplitIfs

/-! # What the dialect spells in its own way

A group name and a code point in braces are spelled differently in the two dialects. They are
syntax only where their first character is not escaped, and a group only outside of character
classes. The translation looks at one character at most to tell, and so it keeps to the syntax
exactly where that character tells enough. -/

namespace FolderTag.Pattern

open FolderTag.Regex

/-- Something that the dialect spells in its own way. -/
inductive Spelling where
  /-- The opening of a named group. -/
  | group
  /-- The code point `n`, spelled with `size` characters. -/
  | codePoint (n size : Nat)

namespace Spelling

def size : Spelling → Nat
  | .group => 3
  | .codePoint _ size => size

/-- The spelling that `Regex.compile` reads. -/
def written : Spelling → List Char
  | .group => "(?P<".toList
  | .codePoint n _ => '\\' :: 'U' :: eightHexDigits n

end Spelling

/-- What the characters at a place would spell if they were syntax. -/
def spellingAt? : List Char → Option Spelling
  | '(' :: '?' :: '<' :: cs =>
      if cs.head? == some '=' || cs.head? == some '!' then none else some .group
  | '\\' :: 'u' :: '\x7b' :: cs =>
      (bracedCodePoint? cs).map fun (n, size) => .codePoint n (size + 3)
  | _ => none

/-- Whether an odd number of backslashes stands before a place; `before` has the characters before
it, nearest first. -/
def isEscaped (before : List Char) : Bool := (before.takeWhile (· == '\\')).length % 2 == 1

/-- Whether a place is in a character class: the nearest bracket before it that is not escaped
opens. -/
def isInClass : List Char → Bool
  | [] => false
  | c :: before =>
      if (c == '[' || c == ']') && !isEscaped before then c == '[' else isInClass before

/-- Whether a spelling is syntax behind the characters `before`. -/
def Spelling.isSyntax (before : List Char) : Spelling → Bool
  | .group => !isEscaped before && !isInClass before
  | .codePoint .. => !isEscaped before

/-- Whether the translation takes a spelling for syntax behind the characters `before`. -/
def Spelling.isTaken (before : List Char) : Spelling → Bool
  | .group => before.head? != some '\\'
  | .codePoint .. => true

/-- A pattern in which the chosen spellings are written anew and every other character is kept. The
number counts characters of a spelling that has been written already, and `before` has the
characters before the place, nearest first. -/
def translateWhere (chosen : List Char → Spelling → Bool) :
    Nat → (before : List Char) → List Char → List Char
  | _, _, [] => []
  | skip + 1, before, c :: cs => translateWhere chosen skip (c :: before) cs
  | 0, before, c :: cs =>
      match (spellingAt? (c :: cs)).filter (chosen before) with
      | some s => s.written ++ translateWhere chosen (s.size - 1) (c :: before) cs
      | none => c :: translateWhere chosen 0 (c :: before) cs

example : translateWhere Spelling.isSyntax 0 [] "\\\\(?<n>[(?<])\\u\x7b41\x7d".toList =
    "\\\\(?P<n>[(?<])\\U00000041".toList := by decide

/-! ## Places of spellings -/

variable {before mid rest cs ds : List Char} {c : Char} {s : Spelling} {n size : Nat}
variable {chosen other : List Char → Spelling → Bool}

/-- Braces hold a code point when one to six hexadecimal digits stand between them. -/
theorem bracedCodePoint?_eq_some_iff :
    bracedCodePoint? cs = some (n, size) ↔ ∃ ds rest, cs = ds ++ '\x7d' :: rest ∧
      (∀ d ∈ ds, isHex d = true) ∧ 1 ≤ ds.length ∧ ds.length ≤ 6 ∧ n = numberIn 16 ds ∧
      size = ds.length + 1 := by
  rw [bracedCodePoint?]
  constructor
  · intro h
    split_ifs at h with hdigits
    obtain ⟨hpos, hle, hclose⟩ := hdigits
    cases h
    have hsplit : cs.takeWhile isHex ++ cs.dropWhile isHex = cs := List.takeWhile_append_dropWhile
    have hhead : (cs.dropWhile isHex).head? = some '\x7d' := by
      rw [List.head?_eq_getElem?, ← hclose, ← Nat.sub_self (cs.takeWhile isHex).length,
        ← List.getElem?_append_right (Nat.le_refl _), hsplit]
    obtain ⟨rest, hrest⟩ := List.head?_eq_some_iff.1 hhead
    refine ⟨cs.takeWhile isHex, rest, ?_, ?_, hpos, hle, rfl, rfl⟩
    · rw [← hrest, hsplit]
    · exact List.all_eq_true.1 List.all_takeWhile
  · rintro ⟨ds, rest, rfl, hds, hpos, hle, rfl, rfl⟩
    have htake : (ds ++ '\x7d' :: rest).takeWhile isHex = ds := by
      rw [List.takeWhile_append_of_pos hds, List.takeWhile_cons_of_neg (by decide), List.append_nil]
    simp [htake, hpos, hle]

theorem spellingAt?_of_ne (hgroup : c ≠ '(') (hescape : c ≠ '\\') :
    spellingAt? (c :: cs) = none := by
  rw [spellingAt?]
  · rintro _ h
    exact hgroup (List.cons.inj h).1
  · rintro _ h
    exact hescape (List.cons.inj h).1

theorem not_special_of_isHex (h : isHex c = true) : c ≠ '(' ∧ c ≠ '\\' := by
  constructor
  · rintro rfl
    exact absurd h (by decide)
  · rintro rfl
    exact absurd h (by decide)

theorem spellingAt?_eq_group_iff : spellingAt? cs = some .group ↔
    ∃ rest, cs = '(' :: '?' :: '<' :: rest ∧
      (rest.head? == some '=' || rest.head? == some '!') = false := by
  constructor
  · intro h
    unfold spellingAt? at h
    split at h
    · rename_i rest
      split_ifs at h with hlookbehind
      exact ⟨rest, rfl, Bool.not_eq_true _ ▸ hlookbehind⟩
    · obtain ⟨_, -, h⟩ := Option.map_eq_some_iff.1 h
      cases h
    · cases h
  · rintro ⟨rest, rfl, hlookbehind⟩
    simp [spellingAt?, hlookbehind]

theorem spellingAt?_eq_codePoint_iff : spellingAt? cs = some (.codePoint n size) ↔
    ∃ ds rest, cs = '\\' :: 'u' :: '\x7b' :: (ds ++ '\x7d' :: rest) ∧
      (∀ d ∈ ds, isHex d = true) ∧ 1 ≤ ds.length ∧ ds.length ≤ 6 ∧ n = numberIn 16 ds ∧
      size = ds.length + 4 := by
  constructor
  · intro h
    unfold spellingAt? at h
    split at h
    · split_ifs at h
      cases h
    · obtain ⟨⟨_, _⟩, hbraced, h⟩ := Option.map_eq_some_iff.1 h
      cases h
      obtain ⟨ds, rest, rfl, hds, hpos, hle, rfl, rfl⟩ := bracedCodePoint?_eq_some_iff.1 hbraced
      exact ⟨ds, rest, rfl, hds, hpos, hle, rfl, rfl⟩
    · cases h
  · rintro ⟨ds, rest, rfl, hds, hpos, hle, rfl, rfl⟩
    have hbraced : bracedCodePoint? (ds ++ '\x7d' :: rest) = some (numberIn 16 ds, ds.length + 1) :=
      bracedCodePoint?_eq_some_iff.2 ⟨ds, rest, rfl, hds, hpos, hle, rfl, rfl⟩
    simp [spellingAt?, hbraced]

theorem not_special_of_mem_braced (hds : ∀ d ∈ ds, isHex d = true) :
    ∀ x ∈ ds ++ ['\x7d'], x ≠ '(' ∧ x ≠ '\\' := by
  intro x hx
  rcases List.mem_append.1 hx with hx | hx
  · exact not_special_of_isHex (hds x hx)
  · rw [List.mem_singleton.1 hx]
    decide

/-- Behind its first character, a spelling holds nothing that could begin another one. -/
theorem exists_of_spellingAt? (h : spellingAt? cs = some s) :
    ∃ c spelled rest, cs = c :: (spelled ++ rest) ∧ s.size = spelled.length + 1 ∧
      ∀ x ∈ spelled, x ≠ '(' ∧ x ≠ '\\' := by
  cases s with
  | group =>
      obtain ⟨rest, rfl, -⟩ := spellingAt?_eq_group_iff.1 h
      exact ⟨'(', ['?', '<'], rest, rfl, rfl, by simp⟩
  | codePoint n size =>
      obtain ⟨ds, rest, rfl, hds, -, -, -, rfl⟩ := spellingAt?_eq_codePoint_iff.1 h
      refine ⟨'\\', 'u' :: '\x7b' :: (ds ++ ['\x7d']), rest, by simp, by simp [Spelling.size], ?_⟩
      simpa using not_special_of_mem_braced hds

/-! ## One place after another -/

theorem translateWhere_cons_of_none (h : (spellingAt? (c :: cs)).filter (chosen before) = none) :
    translateWhere chosen 0 before (c :: cs) = c :: translateWhere chosen 0 (c :: before) cs := by
  rw [translateWhere, h]

theorem translateWhere_skip (spelled : List Char) :
    translateWhere chosen spelled.length before (spelled ++ rest) =
      translateWhere chosen 0 (spelled.reverse ++ before) rest := by
  induction spelled generalizing before with
  | nil => rfl
  | cons c spelled ih =>
      rw [List.length_cons, List.cons_append, translateWhere, ih, List.reverse_cons,
        List.append_assoc]
      rfl

/-- A chosen spelling is written anew, and what follows it is translated on its own. -/
theorem translateWhere_spelled (spelled : List Char)
    (h : spellingAt? (c :: (spelled ++ rest)) = some s)
    (hsize : s.size = spelled.length + 1) (hchosen : chosen before s = true) :
    translateWhere chosen 0 before (c :: (spelled ++ rest)) =
      s.written ++ translateWhere chosen 0 (spelled.reverse ++ c :: before) rest := by
  rw [translateWhere, h, Option.filter_some, if_pos hchosen]
  simp only [hsize, Nat.add_sub_cancel, translateWhere_skip]

/-- What is no spelling is kept, character by character. -/
theorem translateWhere_append (kept : List Char) (h : ∀ x ∈ kept, x ≠ '(' ∧ x ≠ '\\') :
    translateWhere chosen 0 before (kept ++ rest) =
      kept ++ translateWhere chosen 0 (kept.reverse ++ before) rest := by
  induction kept generalizing before with
  | nil => rfl
  | cons c kept ih =>
      rw [List.forall_mem_cons] at h
      rw [List.cons_append,
        translateWhere_cons_of_none (by rw [spellingAt?_of_ne h.1.1 h.1.2]; rfl),
        ih h.2, List.reverse_cons, List.append_assoc]
      rfl

/-! ## Choices that agree -/

/-- Whether two choices agree on every spelling in a text that stands behind `before`. -/
def Agree (chosen other : List Char → Spelling → Bool) (before cs : List Char) : Prop :=
  ∀ mid rest s, cs = mid ++ rest → spellingAt? rest = some s →
    chosen (mid.reverse ++ before) s = other (mid.reverse ++ before) s

theorem agree_nil : Agree chosen other before [] := by
  intro mid rest s h hs
  obtain ⟨-, rfl⟩ := List.nil_eq_append_iff.1 h
  cases hs

theorem agree_cons_iff : Agree chosen other before (c :: cs) ↔
    (∀ s, spellingAt? (c :: cs) = some s → chosen before s = other before s) ∧
      Agree chosen other (c :: before) cs := by
  constructor
  · intro h
    refine ⟨fun s hs => h [] (c :: cs) s rfl hs, fun mid rest s hcs hs => ?_⟩
    simpa using h (c :: mid) rest s (by rw [hcs, List.cons_append]) hs
  · rintro ⟨hhere, hbehind⟩ mid rest s hcs hs
    cases mid with
    | nil =>
        obtain rfl : c :: cs = rest := hcs
        exact hhere s hs
    | cons x mid =>
        obtain ⟨rfl, rfl⟩ := List.cons.inj hcs
        simpa using hbehind mid rest s rfl hs

theorem agree_append_iff {kept : List Char} (h : ∀ x ∈ kept, x ≠ '(' ∧ x ≠ '\\') :
    Agree chosen other before (kept ++ rest) ↔
      Agree chosen other (kept.reverse ++ before) rest := by
  induction kept generalizing before with
  | nil => rfl
  | cons c kept ih =>
      rw [List.forall_mem_cons] at h
      rw [List.cons_append, agree_cons_iff, ih h.2, spellingAt?_of_ne h.1.1 h.1.2]
      simp

/-- A spelling that is written anew differs from one that is kept. -/
theorem Spelling.written_append_ne (h : spellingAt? (c :: cs) = some s) (rest : List Char) :
    s.written ++ rest ≠ c :: translateWhere chosen 0 before cs := by
  cases s with
  | group =>
      obtain ⟨rest, hcs, -⟩ := spellingAt?_eq_group_iff.1 h
      cases hcs
      have hkept : translateWhere chosen 0 before ('?' :: '<' :: rest) = '?' :: '<' :: _ :=
        translateWhere_append ['?', '<'] (by simp)
      simp [written, hkept]
  | codePoint n size =>
      obtain ⟨ds, rest, hcs, -⟩ := spellingAt?_eq_codePoint_iff.1 h
      cases hcs
      have hkept : translateWhere chosen 0 before ('u' :: '\x7b' :: (ds ++ '\x7d' :: rest)) =
          'u' :: '\x7b' :: _ :=
        translateWhere_append ['u', '\x7b'] (by simp)
      simp [written, hkept]

theorem translateWhere_ne (h : spellingAt? (c :: cs) = some s) (hchosen : chosen before s = true)
    (hother : other before s = false) :
    translateWhere chosen 0 before (c :: cs) ≠ translateWhere other 0 before (c :: cs) := by
  have hkept :
      translateWhere other 0 before (c :: cs) = c :: translateWhere other 0 (c :: before) cs :=
    translateWhere_cons_of_none (by simp [h, hother])
  obtain ⟨_, spelled, rest, hcs, hsize, -⟩ := exists_of_spellingAt? h
  obtain ⟨rfl, rfl⟩ := List.cons.inj hcs
  rw [hkept, translateWhere_spelled spelled h hsize hchosen]
  exact Spelling.written_append_ne h _

/-- Two translations of a text are the same exactly when the choices agree at every place. -/
theorem translateWhere_eq_iff :
    translateWhere chosen 0 before cs = translateWhere other 0 before cs ↔
    Agree chosen other before cs := by
  -- A spelling takes several characters away at once, so the induction is on the length.
  induction hn : cs.length using Nat.strongRecOn generalizing cs before with
  | ind n ih =>
      cases cs with
      | nil => simp [translateWhere, agree_nil]
      | cons c cs =>
          have hkept (hchosen : (spellingAt? (c :: cs)).filter (chosen before) = none)
              (hother : (spellingAt? (c :: cs)).filter (other before) = none) :
              translateWhere chosen 0 before (c :: cs) = translateWhere other 0 before (c :: cs) ↔
                Agree chosen other (c :: before) cs := by
            rw [translateWhere_cons_of_none hchosen, translateWhere_cons_of_none hother,
              List.cons_inj_right, ih cs.length (by simp [← hn]) rfl]
          rw [agree_cons_iff]
          cases hs : spellingAt? (c :: cs) with
          | none =>
              rw [hkept (by simp [hs]) (by simp [hs])]
              simp
          | some s =>
              simp only [Option.some.injEq, forall_eq']
              cases hchosen : chosen before s with
              | false =>
                  cases hother : other before s with
                  | false =>
                      rw [hkept (by simp [hs, hchosen]) (by simp [hs, hother])]
                      simp
                  | true => simp [(translateWhere_ne hs hother hchosen).symm]
              | true =>
                  cases hother : other before s with
                  | false => simp [translateWhere_ne hs hchosen hother]
                  | true =>
                      obtain ⟨_, spelled, rest, hcs, hsize, hspelled⟩ := exists_of_spellingAt? hs
                      obtain ⟨rfl, rfl⟩ := List.cons.inj hcs
                      rw [translateWhere_spelled spelled hs hsize hchosen,
                        translateWhere_spelled spelled hs hsize hother, List.append_cancel_left_eq,
                        ih rest.length
                          (by simp only [← hn, List.length_cons, List.length_append]; omega) rfl,
                        agree_append_iff hspelled]
                      simp

/-! ## The translation -/

/-- What opens no group is kept. -/
theorem renameGroups_cons_of_not (h : ∀ rest, ¬ (c = '(' ∧ cs = '?' :: '<' :: rest))
    (escaped : Bool) :
    renameGroups escaped (c :: cs) = c :: renameGroups (c == '\\') cs := by
  rw [renameGroups]
  exact fun rest hc hcs => h rest ⟨hc, hcs⟩

theorem renameGroups_cons (hc : c ≠ '(') (escaped : Bool) :
    renameGroups escaped (c :: cs) = c :: renameGroups (c == '\\') cs :=
  renameGroups_cons_of_not (fun _ h => hc h.1) escaped

theorem renameGroups_append (kept : List Char) (h : ∀ x ∈ kept, x ≠ '(' ∧ x ≠ '\\')
    (hne : kept ≠ []) (escaped : Bool) :
    renameGroups escaped (kept ++ rest) = kept ++ renameGroups false rest := by
  induction kept generalizing escaped with
  | nil => exact absurd rfl hne
  | cons c kept ih =>
      rw [List.forall_mem_cons] at h
      rw [List.cons_append, renameGroups_cons h.1.1, beq_eq_false_iff_ne.2 h.1.2]
      cases kept with
      | nil => rfl
      | cons x kept => exact congrArg (c :: ·) (ih h.2 (List.cons_ne_nil x kept) false)

theorem widenCodePoints_skip (spelled rest : List Char) :
    widenCodePoints spelled.length (spelled ++ rest) = widenCodePoints 0 rest := by
  induction spelled with
  | nil => rfl
  | cons c spelled ih =>
      rw [List.length_cons, List.cons_append, widenCodePoints, ih]

theorem widenCodePoints_cons (hc : c ≠ '\\') :
    widenCodePoints 0 (c :: cs) = c :: widenCodePoints 0 cs := by
  rw [widenCodePoints]
  exact fun _ h _ => hc h

theorem head?_renameGroups (escaped : Bool) : (renameGroups escaped cs).head? = cs.head? := by
  fun_cases renameGroups escaped cs <;> rfl

/-- Renaming makes nothing that could be kept. -/
theorem exists_of_renameGroups (kept : List Char) (h : ∀ x ∈ kept, x ≠ '(' ∧ x ≠ '\\')
    {escaped : Bool} (hcs : renameGroups escaped cs = kept ++ rest) :
    ∃ rest, cs = kept ++ rest := by
  induction kept generalizing escaped cs with
  | nil => exact ⟨cs, rfl⟩
  | cons c kept ih =>
      rw [List.forall_mem_cons] at h
      obtain ⟨tail, rfl⟩ : ∃ tail, cs = c :: tail := by
        have hhead : (renameGroups escaped cs).head? = cs.head? := head?_renameGroups escaped
        rw [hcs, List.cons_append, List.head?_cons] at hhead
        exact List.head?_eq_some_iff.1 hhead.symm
      rw [renameGroups_cons h.1.1, List.cons_append] at hcs
      obtain ⟨rest, rfl⟩ := ih h.2 (List.cons.inj hcs).2
      exact ⟨rest, rfl⟩

/-- Braces hold a code point after renaming exactly when they did before. -/
theorem bracedCodePoint?_renameGroups (escaped : Bool) :
    bracedCodePoint? (renameGroups escaped cs) = bracedCodePoint? cs := by
  ext ⟨n, size⟩
  rw [bracedCodePoint?_eq_some_iff, bracedCodePoint?_eq_some_iff]
  constructor
  · rintro ⟨ds, rest, hcs, hds, hsize⟩
    rw [← List.singleton_append, ← List.append_assoc] at hcs
    obtain ⟨rest, rfl⟩ := exists_of_renameGroups _ (not_special_of_mem_braced hds) hcs
    exact ⟨ds, rest, by simp, hds, hsize⟩
  · rintro ⟨ds, rest, rfl, hds, hsize⟩
    refine ⟨ds, renameGroups false rest, ?_, hds, hsize⟩
    rw [← List.singleton_append, ← List.append_assoc,
      renameGroups_append _ (not_special_of_mem_braced hds) (by simp), List.append_assoc]
    rfl

/-- A parenthesis that is not taken for a group keeps its place. -/
theorem renameGroups_kept
    (h : (spellingAt? (c :: cs)).filter (Spelling.isTaken before) ≠ some .group) :
    renameGroups (before.head? == some '\\') (c :: cs) = c :: renameGroups (c == '\\') cs := by
  by_cases hopens : ∃ rest, c = '(' ∧ cs = '?' :: '<' :: rest
  · obtain ⟨rest, rfl, rfl⟩ := hopens
    have htaken : (before.head? == some '\\' ||
        (rest.head? == some '=' || rest.head? == some '!')) = true := by
      rw [spellingAt?] at h
      split_ifs at h with hlookbehind
      · rw [hlookbehind, Bool.or_true]
      · have hescaped : before.head? = some '\\' := by simpa [Spelling.isTaken] using h
        rw [hescaped]
        rfl
    rw [renameGroups, if_pos htaken, renameGroups_cons (c := '?') (by decide),
      renameGroups_cons (c := '<') (by decide)]
    rfl
  · exact renameGroups_cons_of_not (fun rest h => hopens ⟨rest, h⟩) _

/-- A backslash in front of no code point keeps its place. -/
theorem widenCodePoints_kept (h : ∀ n size, spellingAt? (c :: cs) ≠ some (.codePoint n size)) :
    widenCodePoints 0 (c :: renameGroups (c == '\\') cs) =
      c :: widenCodePoints 0 (renameGroups (c == '\\') cs) := by
  by_cases hopens : ∃ rest, c = '\\' ∧ renameGroups true cs = 'u' :: '\x7b' :: rest
  · obtain ⟨rest, rfl, hcs⟩ := hopens
    obtain ⟨rest', rfl⟩ := exists_of_renameGroups ['u', '\x7b'] (by simp) hcs
    have hbraced : bracedCodePoint? rest = none := by
      rw [renameGroups_append _ (by simp) (by simp)] at hcs
      obtain rfl : renameGroups false rest' = rest := List.append_cancel_left hcs
      rw [bracedCodePoint?_renameGroups]
      cases hnone : bracedCodePoint? rest' with
      | none => rfl
      | some pair =>
          obtain ⟨n, size⟩ := pair
          exact absurd (by simp [spellingAt?, hnone]) (h n (size + 3))
    rw [show ('\\' == '\\') = true from rfl, hcs, widenCodePoints, hbraced]
  · rw [widenCodePoints]
    rintro rest rfl hcs
    exact hopens ⟨rest, rfl, hcs⟩

theorem widen_rename_group (h : (rest.head? == some '=' || rest.head? == some '!') = false) :
    widenCodePoints 0 (renameGroups false ('(' :: '?' :: '<' :: rest)) =
      Spelling.group.written ++ widenCodePoints 0 (renameGroups false rest) := by
  rw [renameGroups, if_neg (by simp [h]), widenCodePoints_cons (by decide),
    widenCodePoints_cons (by decide), widenCodePoints_cons (by decide),
    widenCodePoints_cons (by decide)]
  rfl

theorem widen_rename_codePoint (hds : ∀ d ∈ ds, isHex d = true) (hpos : 1 ≤ ds.length)
    (hle : ds.length ≤ 6) (escaped : Bool) :
    widenCodePoints 0
        (renameGroups escaped ('\\' :: 'u' :: '\x7b' :: (ds ++ '\x7d' :: rest))) =
      (Spelling.codePoint (numberIn 16 ds) size).written ++
        widenCodePoints 0 (renameGroups false rest) := by
  have hkept : renameGroups true ('u' :: '\x7b' :: (ds ++ '\x7d' :: rest)) =
      'u' :: '\x7b' :: (ds ++ '\x7d' :: renameGroups false rest) := by
    have hprefix : renameGroups true (('u' :: '\x7b' :: (ds ++ ['\x7d'])) ++ rest) = _ :=
      renameGroups_append _ (by simpa using not_special_of_mem_braced hds) (by simp) true
    simpa using hprefix
  have hbraced : bracedCodePoint? (ds ++ '\x7d' :: renameGroups false rest) =
      some (numberIn 16 ds, ds.length + 1) :=
    bracedCodePoint?_eq_some_iff.2 ⟨ds, _, rfl, hds, hpos, hle, rfl, rfl⟩
  have hskip := widenCodePoints_skip ('u' :: '\x7b' :: (ds ++ ['\x7d'])) (renameGroups false rest)
  rw [renameGroups_cons (by decide), show ('\\' == '\\') = true from rfl, hkept, widenCodePoints,
    hbraced]
  simp only [Spelling.written, List.cons_append, List.cons.injEq, true_and]
  rw [← hskip]
  simp only [List.length_cons, List.length_append, List.length_nil, List.cons_append,
    List.append_assoc, List.nil_append]
  rw [show 2 + (ds.length + 1) = ds.length + (0 + 1) + 1 + 1 by omega]

/-- Both passes together write the spellings anew that they take for syntax. -/
theorem widen_rename (before cs : List Char) :
    widenCodePoints 0 (renameGroups (before.head? == some '\\') cs) =
      translateWhere Spelling.isTaken 0 before cs := by
  -- A spelling takes several characters away at once, so the induction is on the length.
  induction hn : cs.length using Nat.strongRecOn generalizing cs before with
  | ind n ih =>
      cases cs with
      | nil => rfl
      | cons c cs =>
          cases hs : (spellingAt? (c :: cs)).filter (Spelling.isTaken before) with
          | none =>
              have hgroup : renameGroups (before.head? == some '\\') (c :: cs) =
                  c :: renameGroups (c == '\\') cs := renameGroups_kept (by simp [hs])
              have hcode : ∀ n size, spellingAt? (c :: cs) ≠ some (.codePoint n size) := by
                intro n size h
                simp [h, Spelling.isTaken] at hs
              have hbehind := ih cs.length (by simp [← hn]) (c :: before) cs rfl
              rw [hgroup, widenCodePoints_kept hcode, translateWhere_cons_of_none hs, ← hbehind]
              rfl
          | some s =>
              obtain ⟨hs, htaken⟩ := Option.filter_eq_some_iff.1 hs
              cases s with
              | group =>
                  obtain ⟨rest, hcs, hlookbehind⟩ := spellingAt?_eq_group_iff.1 hs
                  cases hcs
                  have hbehind := ih rest.length (by simp only [← hn, List.length_cons]; omega)
                    ('<' :: '?' :: '(' :: before) rest rfl
                  have hwritten :
                      translateWhere Spelling.isTaken 0 before ('(' :: '?' :: '<' :: rest) =
                        Spelling.group.written ++
                          translateWhere Spelling.isTaken 0 ('<' :: '?' :: '(' :: before) rest :=
                    translateWhere_spelled ['?', '<'] hs rfl htaken
                  have hfree : (before.head? == some '\\') = false := by
                    simpa [Spelling.isTaken] using htaken
                  rw [hfree, widen_rename_group hlookbehind, hwritten, ← hbehind]
                  rfl
              | codePoint n size =>
                  obtain ⟨ds, rest, hcs, hds, hpos, hle, rfl, rfl⟩ :=
                    spellingAt?_eq_codePoint_iff.1 hs
                  cases hcs
                  let behind := '\x7d' :: (ds.reverse ++ '\x7b' :: 'u' :: '\\' :: before)
                  have hbehind := ih rest.length
                    (by simp only [← hn, List.length_cons, List.length_append]; omega) behind rest
                    rfl
                  have hwritten := translateWhere_spelled ('u' :: '\x7b' :: (ds ++ ['\x7d']))
                    (by simpa using hs) (by simp [Spelling.size]) htaken
                  rw [widen_rename_codePoint hds hpos hle]
                  simpa [behind, ← hbehind] using hwritten.symm

/-! ## Eight digits -/

theorem numberIn_append_singleton (base : Nat) (ds : List Char) (c : Char) :
    numberIn base (ds ++ [c]) = base * numberIn base ds + hexValue c := by
  simp [numberIn]

theorem numberIn_append_of_zeros (zeros : Nat) (ds : List Char) :
    numberIn 16 (List.replicate zeros '0' ++ ds) = numberIn 16 ds := by
  induction zeros with
  | zero => rfl
  | succ zeros ih =>
      rw [← ih]
      rfl

theorem hexValue_lt (hc : isHex c = true) : hexValue c < 16 := by
  have hcode : (48 ≤ c.toNat ∧ c.toNat ≤ 57) ∨ (97 ≤ c.toNat ∧ c.toNat ≤ 102) ∨
      (65 ≤ c.toNat ∧ c.toNat ≤ 70) := by
    simpa [isHex, Char.isDigit, Char.le_def, UInt32.le_iff_toNat_le, or_assoc] using hc
  have hvalue : hexValue c = if 48 ≤ c.toNat ∧ c.toNat ≤ 57 then c.toNat - 48
      else if c.toNat < 97 then c.toNat - 55 else c.toNat - 87 := by
    simp [hexValue, Char.isDigit, UInt32.le_iff_toNat_le]
  rw [hvalue]
  split_ifs <;> omega

theorem numberIn_lt (hds : ∀ d ∈ ds, isHex d = true) : numberIn 16 ds < 16 ^ ds.length := by
  induction ds using List.reverseRecOn with
  | nil => decide
  | append_singleton ds c ih =>
      simp only [List.forall_mem_append, List.forall_mem_singleton] at hds
      have hbefore := ih hds.1
      have hlast := hexValue_lt hds.2
      rw [numberIn_append_singleton, List.length_append, List.length_singleton, Nat.pow_succ]
      omega

theorem digitChar_upper {d : Nat} (hd : d < 16) :
    isHex d.digitChar.toUpper = true ∧ hexValue d.digitChar.toUpper = d := by
  revert d
  decide

/-- Upper case digits are read as the number that they were written for. -/
theorem toDigits_upper (n : Nat) :
    (∀ c ∈ (Nat.toDigits 16 n).map Char.toUpper, isHex c = true) ∧
      numberIn 16 ((Nat.toDigits 16 n).map Char.toUpper) = n := by
  induction n using Nat.strongRecOn with
  | ind n ih =>
      rw [Nat.toDigits_eq_if (by decide)]
      split
      · rename_i hn
        simpa [numberIn] using digitChar_upper hn
      · rename_i hn
        obtain ⟨hhex, hvalue⟩ := ih (n / 16) (by omega)
        obtain ⟨hlast, hlastValue⟩ := digitChar_upper (Nat.mod_lt n (by decide : 16 > 0))
        rw [List.map_append, List.map_singleton, numberIn_append_singleton, hvalue, hlastValue]
        refine ⟨?_, by omega⟩
        intro c hc
        rcases List.mem_append.1 hc with hc | hc
        · exact hhex c hc
        · rw [List.mem_singleton.1 hc]
          exact hlast

theorem eightHexDigits_spec (hn : n < 16 ^ 6) :
    (eightHexDigits n).length = 8 ∧ (∀ c ∈ eightHexDigits n, isHex c = true) ∧
      numberIn 16 (eightHexDigits n) = n := by
  have hlength : (Nat.toDigits 16 n).length ≤ 6 := Nat.toDigits_length 16 n 6 (by decide) hn
  obtain ⟨hhex, hvalue⟩ := toDigits_upper n
  refine ⟨?_, ?_, ?_⟩
  · simp only [eightHexDigits, List.length_append, List.length_replicate, List.length_map]
    omega
  · intro c hc
    rcases List.mem_append.1 hc with hc | hc
    · rw [List.eq_of_mem_replicate hc]
      decide
    · exact hhex c hc
  · rw [eightHexDigits, numberIn_append_of_zeros, hvalue]

/-- The translation writes exactly the syntax of the dialect anew, and keeps every other character,
in a pattern in which the character before a spelling tells whether it is syntax; in every other
pattern it does not. A code point is written with eight digits of the same number. -/
theorem translate_eq_iff (pattern : String) :
    ((translate pattern).toList = translateWhere Spelling.isSyntax 0 [] pattern.toList ↔
      Agree Spelling.isTaken Spelling.isSyntax [] pattern.toList) ∧
    ∀ cs n size, spellingAt? cs = some (.codePoint n size) →
      ∃ digits rest written, cs = '\\' :: 'u' :: '\x7b' :: (digits ++ '\x7d' :: rest) ∧
        size = digits.length + 4 ∧ (∀ d ∈ digits, isHex d = true) ∧
        1 ≤ digits.length ∧ digits.length ≤ 6 ∧
        (Spelling.codePoint n size).written = '\\' :: 'U' :: written ∧
        written.length = 8 ∧ (∀ d ∈ written, isHex d = true) ∧
        numberIn 16 written = numberIn 16 digits := by
  constructor
  · rw [translate, String.toList_ofList, translateChars, ← translateWhere_eq_iff]
    rw [← show widenCodePoints 0 (renameGroups false pattern.toList) = _ from
      widen_rename [] pattern.toList]
  · intro cs n size h
    obtain ⟨digits, rest, rfl, hhex, hpos, hle, rfl, rfl⟩ := spellingAt?_eq_codePoint_iff.1 h
    have hlt : numberIn 16 digits < 16 ^ 6 :=
      Nat.lt_of_lt_of_le (numberIn_lt hhex) (Nat.pow_le_pow_right (by decide) hle)
    obtain ⟨hlength, hdigits, hvalue⟩ := eightHexDigits_spec hlt
    exact ⟨digits, rest, _, rfl, rfl, hhex, hpos, hle, rfl, hlength, hdigits, hvalue⟩

/-- An escaped backslash hides a group that follows it, and does not hide a code point; and the
characters that would open a group are no syntax in a class. -/
theorem translate_strays :
    (translate "\\\\(?<n>a)" = "\\\\(?<n>a)" ∧
      translateWhere Spelling.isSyntax 0 [] "\\\\(?<n>a)".toList = "\\\\(?P<n>a)".toList) ∧
    (translate "\\\\u\x7b41\x7d" = "\\\\U00000041" ∧
      translateWhere Spelling.isSyntax 0 [] "\\\\u\x7b41\x7d".toList = "\\\\u\x7b41\x7d".toList) ∧
    (translate "[(?<]" = "[(?P<]" ∧
      translateWhere Spelling.isSyntax 0 [] "[(?<]".toList = "[(?<]".toList) := by
  decide

end FolderTag.Pattern
