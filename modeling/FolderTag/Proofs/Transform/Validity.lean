import FolderTag.Proofs.Pattern.FlagText
import FolderTag.Proofs.Regex.Compiling
import FolderTag.Transform.Rewrite

/-! # Which rewrites run

Whether a pattern is a regular expression does not depend on the flags it is compiled with. So the
check of a pattern on its own tells which rewrites run. -/

namespace FolderTag.Pattern

variable {pattern flags flags' : String} {choice : FlagChoice}

/-- Accepted flag texts say only how characters are compared. -/
theorem isSilent_of_readFlags? (h : readFlags? flags = some choice) : choice.switches.IsSilent := by
  rw [switches_of_readFlags? h]
  exact ⟨rfl, rfl, rfl, rfl⟩

/-- With accepted flags the expression is the same as without flags, and so is the refusal. -/
theorem compileRegex_eq (pattern : String) (h : readFlags? flags = some choice) :
    compileRegex pattern flags =
      (compileRegex pattern "").map fun e => { e with flags := e.flags.union choice.switches } := by
  have hnone : readFlags? "" = some {} := rfl
  have hcompile : Regex.compile (regexSource pattern) choice.switches = _ :=
    Regex.Flags.none_union choice.switches ▸
      Regex.compile_union (isSilent_of_readFlags? h) (regexSource pattern) .none
  rw [compileRegex, compileRegex, flagChoice, flagChoice, h, hnone, ok_bind, ok_bind, compileSource,
    compileSource, hcompile]
  cases Regex.compile (regexSource pattern) .none with
  | error e => rfl
  | ok e => rfl

theorem exists_compileRegex_iff (h : (readFlags? flags).isSome = true) :
    (∃ e, compileRegex pattern flags = .ok e) ↔ ∃ e, compileRegex pattern "" = .ok e := by
  obtain ⟨choice, h⟩ := Option.isSome_iff_exists.1 h
  rw [compileRegex_eq pattern h]
  cases compileRegex pattern "" with
  | error refusal => simp [Except.map]
  | ok e => simp [Except.map]

theorem compileRegex_eq_error_iff (h : (readFlags? flags).isSome = true) {refusal : Refusal} :
    compileRegex pattern flags = .error refusal ↔ compileRegex pattern "" = .error refusal := by
  obtain ⟨choice, h⟩ := Option.isSome_iff_exists.1 h
  rw [compileRegex_eq pattern h]
  cases compileRegex pattern "" with
  | error refusal => simp [Except.map]
  | ok e => simp [Except.map]

end FolderTag.Pattern

namespace FolderTag.Transform

open FolderTag.Document FolderTag.Log FolderTag.Pattern

variable {r : Rewrite} {pattern flags : String}

theorem Rewrite.compile_eq {choice : FlagChoice} (hpattern : r.pattern = .text pattern)
    (hflags : storedFlags r.flags defaultFlags = .ok flags) (h : readFlags? flags = some choice) :
    r.compile =
      ((compileRegex pattern flags).mapError Interruption.refusal).map (·, choice.replaceAll) := by
  have hkey : checkStored (Value.text pattern).asKey = .ok (.text pattern) := rfl
  have hchoice : flagChoice flags = .ok choice := by rw [flagChoice, h]
  rw [compile, hpattern, hflags, hkey, ok_bind, checkStored, mapError_ok, ok_bind, hchoice,
    mapError_ok, ok_bind]
  change ((compileRegex pattern flags).mapError Interruption.refusal >>= fun e =>
    pure (e, choice.replaceAll)) = _
  cases compileRegex pattern flags with
  | error refusal => rfl
  | ok e => rfl

/-! ## What a rewrite answers -/

theorem checkStored_ne_refusal {α : Type} (x : Except Misuse α) (refusal : Refusal) :
    checkStored x ≠ .error (.refusal refusal) := by
  cases x with
  | error m => nofun
  | ok a => nofun

theorem Rewrite.outcome_replaced_ne (r : Rewrite) (e : Regex.Expression) (replaceAll : Bool)
    (s : String) (refusal : Refusal) :
    (r.replaced e replaceAll s).outcome ≠ .error (.refusal refusal) :=
  checkStored_ne_refusal _ refusal

theorem Rewrite.entries_skipped (r : Rewrite) (message s : String) :
    (r.skipped message s).entries = [{
      level := .warning
      message := "Invalid regex pattern"
      context := [("pattern", r.pattern), ("error", .text message)] }] := rfl

theorem Rewrite.skipped_inj {message message' s : String} :
    r.skipped message s = r.skipped message' s ↔ message = message' := by
  refine ⟨fun h => ?_, fun h => h ▸ rfl⟩
  have hentries := congrArg Attempt.entries h
  simpa [entries_skipped] using hentries

theorem Rewrite.apply_of_compile {e : Regex.Expression} {replaceAll : Bool}
    (h : r.compile = .ok (e, replaceAll)) (s : String) : r.apply s = r.replaced e replaceAll s := by
  rw [apply, h]

theorem Rewrite.apply_of_refusal {refusal : Refusal} (h : r.compile = .error (.refusal refusal))
    (s : String) : r.apply s =
      if refusal.isInvalid then r.skipped refusal.message s else throw (.refusal refusal) := by
  rw [apply, h]

/-- Whether a pattern is a regular expression, and for what cause it is not, is the same for all
accepted flags. So the check of a pattern on its own finds nothing wrong exactly where a rewrite
with accepted flags replaces what the pattern matches, finds what is wrong exactly where it leaves
the text as it is, and is interrupted exactly where the rewrite is. -/
theorem validity_ignores_flags (pattern : String) {flags flags' : String}
    (h : (readFlags? flags).isSome = true) (h' : (readFlags? flags').isSome = true) :
    ((∃ e, compileRegex pattern flags = .ok e) ↔ ∃ e, compileRegex pattern flags' = .ok e) ∧
    (∀ refusal, compileRegex pattern flags = .error refusal ↔
      compileRegex pattern flags' = .error refusal) ∧
    ∀ (r : Rewrite) (s : String), r.pattern = .text pattern →
      storedFlags r.flags defaultFlags = .ok flags →
      (patternFault? pattern = .ok none ↔
        ∃ e replaceAll, r.compile = .ok (e, replaceAll) ∧ r.apply s = r.replaced e replaceAll s) ∧
      (∀ message, patternFault? pattern = .ok (some message) ↔ r.apply s = r.skipped message s) ∧
      ∀ refusal, patternFault? pattern = .error refusal ↔ r.apply s = throw (.refusal refusal) := by
  refine ⟨(exists_compileRegex_iff h).trans (exists_compileRegex_iff h').symm, fun refusal =>
    (compileRegex_eq_error_iff h).trans (compileRegex_eq_error_iff h').symm, ?_⟩
  intro r s hpattern hflags
  obtain ⟨choice, h⟩ := Option.isSome_iff_exists.1 h
  have hcompile := r.compile_eq hpattern hflags h
  rw [compileRegex_eq pattern h] at hcompile
  cases hplain : compileRegex pattern "" with
  | ok e =>
      rw [hplain] at hcompile
      have hfault : patternFault? pattern = .ok none := by rw [patternFault?, hplain, faultOf]
      have happly := Rewrite.apply_of_compile hcompile s
      refine ⟨iff_of_true hfault ⟨_, _, hcompile, happly⟩, fun message => ?_, fun refusal => ?_⟩
      · rw [hfault, happly]
        exact iff_of_false nofun fun h => nomatch congrArg Attempt.entries h
      · rw [hfault, happly]
        exact iff_of_false nofun fun h => r.outcome_replaced_ne _ _ s refusal (congrArg _ h)
  | error refusal =>
      rw [hplain] at hcompile
      have hfault : patternFault? pattern =
          if refusal.isInvalid then .ok (some refusal.message) else .error refusal := by
        rw [patternFault?, hplain, faultOf]
      have happly := Rewrite.apply_of_refusal hcompile s
      have hstops : ¬ ∃ e replaceAll,
          r.compile = .ok (e, replaceAll) ∧ r.apply s = r.replaced e replaceAll s := by
        rintro ⟨e, replaceAll, hruns, -⟩
        cases hcompile.symm.trans hruns
      by_cases hinvalid : refusal.isInvalid = true
      · rw [if_pos hinvalid] at hfault happly
        refine ⟨iff_of_false (by simp [hfault]) hstops, fun message => ?_, fun other => ?_⟩
        · rw [hfault, happly, Rewrite.skipped_inj, Except.ok.injEq, Option.some.injEq]
        · rw [hfault, happly]
          exact iff_of_false nofun fun h => nomatch congrArg Attempt.outcome h
      · rw [if_neg hinvalid] at hfault happly
        refine ⟨iff_of_false (by simp [hfault]) hstops, fun message => ?_, fun other => ?_⟩
        · rw [hfault, happly]
          exact iff_of_false nofun fun h => nomatch congrArg Attempt.outcome h
        · rw [hfault, happly, Except.error.injEq]
          refine ⟨fun h => h ▸ rfl, fun h => ?_⟩
          have houtcome := congrArg Attempt.outcome h
          rw [Attempt.outcome_throw, Attempt.outcome_throw] at houtcome
          cases houtcome
          rfl

/-- A rewrite whose pattern lacks a closing bracket. -/
def openBracket : Rewrite where
  pattern := .text "[a"
  replacement := .text "b"
  flags := .text "gi"

theorem validity_ignores_flags_openBracket :
    patternFault? "[a" = .ok (some "unterminated character set at position 0") ∧
    openBracket.apply "[a]" =
      openBracket.skipped "unterminated character set at position 0" "[a]" := by
  have hgi : (readFlags? "gi").isSome = true := by decide
  have hms : (readFlags? "ms").isSome = true := by decide
  have hfault : patternFault? "[a" = .ok (some "unterminated character set at position 0") := by
    decide +kernel
  have hruns := (validity_ignores_flags "[a" hgi hms).2.2 openBracket "[a]" rfl rfl
  exact ⟨hfault, (hruns.2.1 _).1 hfault⟩

end FolderTag.Transform
