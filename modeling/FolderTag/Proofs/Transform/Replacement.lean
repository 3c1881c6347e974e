import FolderTag.Proofs.Regex.Forward
import FolderTag.Proofs.Text.Replace
import FolderTag.Proofs.Transform.Template
import FolderTag.Proofs.Transform.Validity

/-! # What rewrites put in

A rewrite cuts the text at the matches of its pattern and puts something in for each of them. What
is between the matches is kept, so a rewrite that puts each match in again changes nothing. -/

namespace FolderTag.Transform

open FolderTag.Document FolderTag.Log FolderTag.Pattern FolderTag.Regex FolderTag.Text

/-! ## Splicing -/

/-- The matches that are replaced. -/
def chosenMatches (e : Expression) (replaceAll : Bool) (s : List Char) : List Match :=
  if replaceAll then e.allMatches s else (e.allMatches s).take 1

theorem follow_chosenMatches (e : Expression) (replaceAll : Bool) (s : List Char) :
    Follow (.start s) (chosenMatches e replaceAll s) := by
  rw [chosenMatches]
  split
  · exact e.follow_allMatches s
  · exact (e.follow_allMatches s).take 1

theorem replaceMatches_eq {e : Expression} {replaceAll : Bool} {s : List Char}
    {new : Match → Except Misuse (List Char)} {made : Match → List Char}
    (h : ∀ m, new m = .ok (made m)) : replaceMatches e replaceAll new s =
      .ok (splice (.start s) ((chosenMatches e replaceAll s).map fun m => (m, made m))) := by
  have hmade : (chosenMatches e replaceAll s).mapM (fun m => return (m, ← new m)) =
      .ok ((chosenMatches e replaceAll s).map fun m => (m, made m)) := by
    refine mapM_eq_ok_iff.2 (List.forall₂_map_right_iff.2 (List.forall₂_same.2 fun m _ => ?_))
    rw [h, ok_bind, pure_eq_ok]
  change (chosenMatches e replaceAll s).mapM _ >>= _ = _
  rw [hmade, ok_bind, pure_eq_ok]

/-- Matches that follow each other cut the text into what they match and what is between them. -/
theorem splice_whole {c : Cursor} {ms : List Match} (h : Follow c ms) :
    splice c (ms.map fun m => (m, m.whole)) = c.after := by
  induction h with
  | nil c => rfl
  | cons hgap hmatch _ ih =>
      rw [List.map_cons, splice, ih, hgap.upTo_eq, hgap.after_eq, hmatch.after_eq,
        List.append_assoc]

/-! ## Templates -/

theorem Rewrite.outcome_replaced_eq {r : Rewrite} {e : Expression} {made : Match → List Char}
    (h : ∀ m, expandStored (.ofExpression e) r.replacement m = .ok (made m)) (replaceAll : Bool)
    (s : String) : (r.replaced e replaceAll s).outcome = .ok (String.ofList (splice
      (.start s.toList) ((chosenMatches e replaceAll s.toList).map fun m => (m, made m)))) := by
  rw [replaced, Attempt.outcome_ofExcept]
  dsimp only
  rw [replaceMatches_eq h]
  rfl

/-- The template that stands for the match itself. -/
def wholeTemplate : Value := .text "$&"

theorem expandStored_wholeTemplate (scope : GroupScope) (m : Match) :
    expandStored scope wholeTemplate m = .ok m.whole := by
  have hread : readTemplate scope ['$', '&'] = .ok [.whole] := rfl
  change expand scope ['$', '&'] m = _
  rw [expand_eq, hread, map_ok, List.flatMap_singleton]
  rfl

/-- A text in which every dollar sign stands twice. -/
def escaped (s : List Char) : List Char := replaceAll ['$'] ['$', '$'] s

theorem escaped_nil : escaped [] = [] := by
  rw [escaped, replaceAll]

theorem escaped_dollar (s : List Char) : escaped ('$' :: s) = '$' :: '$' :: escaped s :=
  replaceAll_word_append (List.cons_ne_nil _ _) ['$', '$'] s

theorem escaped_cons {c : Char} (h : c ≠ '$') (s : List Char) :
    escaped (c :: s) = c :: escaped s := by
  refine replaceAll_append_of_beginsNowhere (s := [c]) ['$', '$'] ?_
  exact beginsNowhere_of_notMem (by simpa using h.symm) [] s

/-- In an escaped text each character stands for itself: a dollar sign by the mark that it makes
with the one behind it. -/
theorem token_escaped (value? : Char → Option Nat) (scope : GroupScope) (c : Char)
    (s : List Char) : Template.Token value? scope (escaped (c :: s)) (.char c) (escaped s) := by
  by_cases hc : c = '$'
  · subst hc
    rw [escaped_dollar]
    exact .mark rfl
  · rw [escaped_cons hc]
    exact .plain hc

theorem reads_escaped (value? : Char → Option Nat) (scope : GroupScope) (s : List Char) :
    Template.Reads value? scope (escaped s) (s.map .char) := by
  induction s with
  | nil =>
      rw [escaped_nil]
      exact .nil
  | cons c s ih => exact .cons (token_escaped value? scope c s) ih

/-- No digit stands behind a dollar sign where a part of an escaped text begins. -/
theorem not_meets_escaped (scope : GroupScope) (s : List Char) :
    ¬ Template.Meets decimalValue? scope Template.HasUndecimal (escaped s) := by
  induction s with
  | nil =>
      rw [escaped_nil]
      exact Template.not_meets_nil
  | cons c s ih =>
      rw [Template.meets_iff_of_token Template.areDigits_decimal (token_escaped _ scope c s)]
      rintro (⟨t, ht, hundecimal⟩ | hmeets)
      · by_cases hc : c = '$'
        · subst hc
          rw [escaped_dollar] at ht
          cases ht
          exact absurd (Template.hasUndecimal_cons_iff.1 hundecimal).1 (by decide)
        · rw [escaped_cons hc] at ht
          exact hc (List.cons.inj ht).1
      · exact ih hmeets

theorem expandStored_escaped (scope : GroupScope) (s : String) (m : Match) :
    expandStored scope (.text (String.ofList (escaped s.toList))) m = .ok s.toList := by
  have hread : readTemplate scope (escaped s.toList) = .ok (s.toList.map .char) :=
    (Template.readParts_of_reads (reads_escaped _ scope _) (Nat.le_refl _)).1
      (not_meets_escaped scope _)
  rw [expandStored, String.toList_ofList, expand_eq, hread, map_ok, List.flatMap_map]
  simp [TemplatePart.text]

/-! ## Rewrites -/

/-- The rewrite that puts each match in again. -/
def Rewrite.keeping (pattern flags : Value) : Rewrite :=
  { pattern, replacement := wholeTemplate, flags }

/-- The rewrite that puts a text in for each match, whatever signs the text has. -/
def Rewrite.inserting (pattern flags : Value) (s : String) : Rewrite :=
  { pattern, replacement := .text (String.ofList (escaped s.toList)), flags }

theorem Rewrite.outcome_skipped (r : Rewrite) (message s : String) :
    (r.skipped message s).outcome = .ok s := rfl

/-- Putting each match in again changes no text, and only a pattern or flags that cannot be used
stop it. -/
theorem Rewrite.apply_keeping (pattern flags : Value) (s : String) :
    (∀ t, ((keeping pattern flags).apply s).outcome = .ok t → t = s) ∧
    ∀ i, ((keeping pattern flags).apply s).outcome = .error i →
      (keeping pattern flags).compile = .error i := by
  cases hcompile : (keeping pattern flags).compile with
  | ok compiled =>
      obtain ⟨e, replaceAll⟩ := compiled
      have hkept := splice_whole (follow_chosenMatches e replaceAll s.toList)
      have houtcome : ((keeping pattern flags).apply s).outcome = .ok s := by
        rw [apply_of_compile hcompile, outcome_replaced_eq (expandStored_wholeTemplate _), hkept]
        exact congrArg Except.ok String.ofList_toList
      rw [houtcome]
      exact ⟨fun t ht => (Except.ok.inj ht).symm, by simp⟩
  | error i =>
      cases i with
      | misuse cause =>
          have houtcome : ((keeping pattern flags).apply s).outcome = .error (.misuse cause) := by
            rw [apply, hcompile]
            rfl
          rw [houtcome]
          exact ⟨by simp, fun i hi => congrArg Except.error (Except.error.inj hi)⟩
      | refusal refusal =>
          rw [apply_of_refusal hcompile]
          split_ifs with hinvalid
          · rw [outcome_skipped]
            exact ⟨fun t ht => (Except.ok.inj ht).symm, by simp⟩
          · rw [Attempt.outcome_throw]
            exact ⟨by simp, fun i hi => congrArg Except.error (Except.error.inj hi)⟩

/-- Matches of nothing, next to each other and before a look-around, are put in again. -/
theorem Rewrite.apply_keeping_gaps :
    ((keeping (.text "(?=b)|c*") (.text "g")).apply "abcc").outcome = .ok "abcc" := by
  obtain ⟨compiled, hcompile⟩ := exists_ok_of_isOk
    (show (keeping (.text "(?=b)|c*") (.text "g")).compile.isOk = true by decide +kernel)
  obtain ⟨hkept, hstops⟩ := apply_keeping (.text "(?=b)|c*") (.text "g") "abcc"
  cases houtcome : ((keeping (.text "(?=b)|c*") (.text "g")).apply "abcc").outcome with
  | ok t => rw [hkept t houtcome]
  | error i => cases hcompile.symm.trans (hstops i houtcome)

/-- Any text can be put in: its escaped form stands for it at every match, so a rewrite puts in just
that text for each match that it replaces. -/
theorem Rewrite.apply_inserting (s : String) :
    (∀ scope m, expandStored scope (.text (String.ofList (escaped s.toList))) m = .ok s.toList) ∧
    ∀ pattern flags e replaceAll text,
      (inserting pattern flags s).compile = .ok (e, replaceAll) →
      ((inserting pattern flags s).apply text).outcome = .ok (String.ofList (splice
        (.start text.toList) ((chosenMatches e replaceAll text.toList).map (·, s.toList)))) := by
  refine ⟨fun scope m => expandStored_escaped scope s m, ?_⟩
  intro pattern flags e replaceAll text hcompile
  rw [apply_of_compile hcompile, outcome_replaced_eq fun m => expandStored_escaped _ s m]

/-- The expression of one small letter. -/
def letterA : Expression where
  source := "a"
  node := .code false 97
  flags := { unicode := true }
  widths := []
  names := []

theorem Rewrite.apply_inserting_price :
    (inserting (.text "a") .null "$1&").compile = .ok (letterA, true) ∧
    ((inserting (.text "a") .null "$1&").apply "banana").outcome = .ok "b$1&n$1&n$1&" := by
  have hcompile : (inserting (.text "a") .null "$1&").compile = .ok (letterA, true) :=
    eq_ok_of_toOption (by decide +kernel)
  refine ⟨hcompile, ?_⟩
  rw [(apply_inserting "$1&").2 _ _ _ _ "banana" hcompile, Except.ok.injEq]
  decide +kernel

end FolderTag.Transform
