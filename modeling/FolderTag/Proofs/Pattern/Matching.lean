import FolderTag.Pattern.Matching
import FolderTag.Proofs.Outcome
import FolderTag.Proofs.Regex.Forward

/-! # When a pattern matches

A text matches a pattern exactly when the compiled pattern is found in it. What a glob is found in
is always the whole text. -/

namespace FolderTag.Pattern

open FolderTag.Document FolderTag.Log

theorem outcome_isStoredMatch (text pattern flags : String) :
    (isStoredMatch (.text text) (.text pattern) (.text flags)).outcome =
      (isMatch text pattern flags).outcome := by
  have hflags : storedFlags (.text flags) "" = .ok flags := by
    by_cases h : flags = "" <;> simp [storedFlags, Value.isSet, Value.asKey, Value.isKey, h]
  simp [isStoredMatch, hflags, checkStored]

theorem outcome_isMatch_of_compile {text pattern flags : String} {entry : Entry}
    (h : compile pattern flags = .ok entry) :
    (isMatch text pattern flags).outcome = .ok (entry.search text).isSome := by
  rw [isMatch, h]
  rfl

/-- A text matches exactly when the pattern can be compiled and is found in it. -/
theorem outcome_isMatch_eq_true_iff {text pattern flags : String} :
    (isMatch text pattern flags).outcome = .ok true ↔
      ∃ entry, compile pattern flags = .ok entry ∧ (entry.search text).isSome = true := by
  constructor
  · intro h
    cases hcompile : compile pattern flags with
    | ok entry =>
        rw [outcome_isMatch_of_compile hcompile, Except.ok.injEq] at h
        exact ⟨entry, rfl, h⟩
    | error refusal =>
        rw [isMatch, hcompile] at h
        cases hinvalid : refusal.isInvalid <;> simp [hinvalid] at h
  · rintro ⟨entry, hcompile, hfound⟩
    rw [outcome_isMatch_of_compile hcompile, hfound]

theorem kind_of_compile {pattern flags : String} {entry : Entry} (hglob : isGlob pattern = true)
    (h : compile pattern flags = .ok entry) : entry.kind = .glob := by
  rw [compile, if_pos hglob, bind_eq_ok_iff] at h
  obtain ⟨e, -, h⟩ := h
  cases h
  rfl

/-- A glob is found only in the whole text. -/
theorem whole_of_search {text : String} {entry : Entry} {m : Regex.Match}
    (hkind : entry.kind = .glob) (h : entry.search text = some m) : m.whole = text.toList := by
  rw [Entry.search, hkind] at h
  exact Regex.Expression.whole_of_fullMatch h

/-! ## Every outcome -/

/-- The source of the regular expression that a pattern stands for. -/
def sourceOf (pattern : String) : String :=
  if isGlob pattern then Glob.source pattern else regexSource pattern

/-- Where the expression of a pattern is in a text: that of a glob has to match all of it. -/
def occurrence? (pattern text : String) (e : Regex.Expression) : Option Regex.Match :=
  if isGlob pattern then e.fullMatch text.toList else e.search text.toList

/-- The flags can be read, the pattern can be compiled with them, and what it stands for is found
in the text. -/
def IsFound (text pattern flags : String) : Prop :=
  ∃ choice e, readFlags? flags = some choice ∧
    Regex.compile (sourceOf pattern) choice.switches = .ok e ∧
    (occurrence? pattern text e).isSome = true

/-- The flags can be read, and the compiler breaks off: it neither compiles the pattern nor finds it
malformed. -/
def BreaksOff (pattern flags : String) (error : Regex.Error) : Prop :=
  ∃ choice, readFlags? flags = some choice ∧
    Regex.compile (sourceOf pattern) choice.switches = .error error ∧
    (error = .repetitionTooLarge ∨ error = .conflictingAlphabets)

theorem search_eq {pattern flags text : String} {e : Regex.Expression} :
    Entry.search
      { pattern, kind := if isGlob pattern then .glob else .regex, expression := e, flags } text =
      occurrence? pattern text e := by
  by_cases hglob : isGlob pattern = true <;> simp [Entry.search, occurrence?, hglob]

theorem compile_of_readFlags?_none (pattern : String) {flags : String}
    (h : readFlags? flags = none) : compile pattern flags = .error (.flags flags) := by
  by_cases hglob : isGlob pattern = true
  · simp [compile, hglob, compileGlob, flagChoice, h]
  · simp [compile, hglob, compileRegex, flagChoice, h]

theorem compile_of_readFlags? (pattern : String) {flags : String} {choice : FlagChoice}
    (h : readFlags? flags = some choice) :
    compile pattern flags =
      match Regex.compile (sourceOf pattern) choice.switches with
      | .ok expression =>
          .ok { pattern, kind := if isGlob pattern then .glob else .regex, expression, flags }
      | .error e => .error (.ofError (sourceOf pattern) e) := by
  by_cases hglob : isGlob pattern = true
  · rw [compile, if_pos hglob, sourceOf, if_pos hglob, compileGlob, flagChoice, h, ok_bind,
      compileSource, if_pos hglob]
    cases Regex.compile (Glob.source pattern) choice.switches <;> rfl
  · rw [compile, if_neg hglob, sourceOf, if_neg hglob, compileRegex, flagChoice, h, ok_bind,
      compileSource, if_neg hglob]
    cases Regex.compile (regexSource pattern) choice.switches <;> rfl

theorem outcome_isMatch_of_refusal (text : String) {pattern flags : String} {refusal : Refusal}
    (h : compile pattern flags = .error refusal) :
    (isMatch text pattern flags).outcome =
      if refusal.isInvalid then .ok false else .error (.refusal refusal) := by
  rw [isMatch, h]
  cases hinvalid : refusal.isInvalid <;> simp [hinvalid]

/-- Whether there is an answer does not depend on the text. -/
theorem exists_isMatch_iff {text pattern flags : String} :
    (∃ b, (isMatch text pattern flags).outcome = .ok b) ↔
      ∀ refusal, compile pattern flags = .error refusal → refusal.isInvalid = true := by
  cases hcompile : compile pattern flags with
  | ok entry => simp [outcome_isMatch_of_compile hcompile]
  | error refusal =>
      rw [outcome_isMatch_of_refusal text hcompile]
      cases hinvalid : refusal.isInvalid <;> simp [hinvalid]

end FolderTag.Pattern
