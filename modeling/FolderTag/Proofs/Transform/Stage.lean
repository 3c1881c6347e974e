import FolderTag.Proofs.Outcome
import FolderTag.Transform.Pipeline

/-! # What a run of stages reports

A run tries stages one after another, each on what the ones before it made. A disabled stage is not
tried. A stage that fails leaves the text as it is, and in a halting run it is the last one that is
tried. -/

namespace FolderTag.Transform

open FolderTag.Log

variable {halting : Bool} {s : Stage} {stages rest : List Stage} {text : String}

/-! ## One stage -/

namespace Stage

/-- What a stage makes of a text; where it fails, that is the text itself. -/
def made (s : Stage) (text : String) : String :=
  match (s.transform text).outcome with
  | .ok made => made
  | .error _ => text

/-- What is said of a stage that fails. -/
def failure? (s : Stage) (text : String) : Option String :=
  match (s.transform text).outcome with
  | .ok _ => none
  | .error e => some (s.name ++ ": " ++ e)

theorem value_run (henabled : s.enabled = true) (text : String) :
    (s.run text).value =
      { content := s.made text, error := s.failure? text, name := s.name } := by
  rw [run, if_pos henabled, Traced.value_bind, ← Attempt.outcome, made, failure?]
  cases (s.transform text).outcome with
  | ok made => rfl
  | error e => rfl

theorem made_of_failure (h : (s.failure? text).isSome = true) : s.made text = text := by
  rw [failure?] at h
  rw [made]
  cases houtcome : (s.transform text).outcome with
  | ok made => simp [houtcome] at h
  | error e => rfl

end Stage

/-! ## Stages one after another -/

/-- What stages make of a text, each of what the ones before it made. -/
def madeBy (stages : List Stage) (text : String) : String :=
  stages.foldl (fun text s => s.made text) text

/-- What is said of the stage at a place, if it fails on what the stages before it made. -/
def failureAt? (stages : List Stage) (text : String) (i : Nat) : Option String :=
  stages[i]?.bind fun s => s.failure? (madeBy (stages.take i) text)

/-- One report for each stage. -/
def reportsOf (stages : List Stage) (text : String) : List StageReport :=
  stages.mapIdx fun i s => { name := s.name, error := s.failure? (madeBy (stages.take i) text) }

@[simp] theorem reportsOf_nil (text : String) : reportsOf [] text = [] := rfl

@[simp] theorem reportsOf_cons (s : Stage) (stages : List Stage) (text : String) :
    reportsOf (s :: stages) text =
      { name := s.name, error := s.failure? text } :: reportsOf stages (s.made text) := by
  simp [reportsOf, List.mapIdx_cons, madeBy]

@[simp] theorem length_reportsOf (stages : List Stage) (text : String) :
    (reportsOf stages text).length = stages.length := by
  simp [reportsOf]

@[simp] theorem failureAt?_zero (s : Stage) (stages : List Stage) (text : String) :
    failureAt? (s :: stages) text 0 = s.failure? text := rfl

@[simp] theorem failureAt?_succ (s : Stage) (stages : List Stage) (text : String) (i : Nat) :
    failureAt? (s :: stages) text (i + 1) = failureAt? stages (s.made text) i := rfl

theorem forall_failureAt?_eq_none_iff :
    (∀ i, failureAt? stages text i = none) ↔ ∀ r ∈ reportsOf stages text, r.error = none := by
  induction stages generalizing text with
  | nil => simp [failureAt?]
  | cons s stages ih =>
      rw [reportsOf_cons, List.forall_mem_cons, ← ih]
      constructor
      · intro h
        exact ⟨h 0, fun i => h (i + 1)⟩
      · rintro ⟨hfirst, hrest⟩ i
        cases i with
        | zero => exact hfirst
        | succ i => exact hrest i

/-- The first stage that fails parts the reports. -/
theorem exists_reportsOf_of_first {i : Nat} {e : String} (hi : failureAt? stages text i = some e)
    (hfirst : ∀ j < i, failureAt? stages text j = none) :
    ∃ before r after, reportsOf stages text = before ++ r :: after ∧ before.length = i ∧
      r.error = some e ∧ ∀ b ∈ before, b.error = none := by
  induction stages generalizing text i with
  | nil => simp [failureAt?] at hi
  | cons s stages ih =>
      cases i with
      | zero => exact ⟨[], _, _, reportsOf_cons s stages text, rfl, hi, by simp⟩
      | succ i =>
          obtain ⟨before, r, after, hsplit, hlength, herror, hbefore⟩ :=
            ih hi fun j hj => hfirst (j + 1) (by omega)
          have hpasses : s.failure? text = none := hfirst 0 (by omega)
          refine ⟨{ name := s.name, error := s.failure? text } :: before, r, after, ?_,
            by simp [hlength], herror, ?_⟩
          · rw [reportsOf_cons, hsplit, List.cons_append]
          · exact List.forall_mem_cons.2 ⟨hpasses, hbefore⟩

/-! ## The stages that are tried -/

/-- The stages that a run tries: the enabled ones, in a halting run up to the first failure. -/
def tried (halting : Bool) (stages : List Stage) (text : String) : List Stage :=
  let enabled := stages.filter (·.enabled)
  if halting then
    enabled.take ((reportsOf enabled text).findIdx (·.error.isSome) + 1)
  else enabled

theorem tried_of_disabled (h : s.enabled = false) :
    tried halting (s :: rest) text = tried halting rest text := by
  simp [tried, h]

theorem tried_of_failure (henabled : s.enabled = true) (h : (s.failure? text).isSome = true) :
    tried true (s :: rest) text = [s] := by
  simp [tried, henabled, List.findIdx_cons, h]

theorem tried_cons (henabled : s.enabled = true)
    (h : ((s.failure? text).isSome && halting) = false) :
    tried halting (s :: rest) text = s :: tried halting rest (s.made text) := by
  cases halting with
  | false => simp [tried, henabled]
  | true =>
      have hpasses : (s.failure? text).isSome = false := by simpa using h
      simp [tried, henabled, List.findIdx_cons, hpasses]

/-- A run is settled by the stages that it tries. -/
theorem value_runStages (halting : Bool) (stages : List Stage) (text : String) :
    (runStages halting stages text).value =
      { content := madeBy (tried halting stages text) text
        stages := reportsOf (tried halting stages text) text
        halting } := by
  induction stages generalizing text with
  | nil => cases halting <;> rfl
  | cons s rest ih =>
      cases henabled : s.enabled with
      | false =>
          have hskip : runStages halting (s :: rest) text = runStages halting rest text := by
            simp [runStages, henabled]
          rw [hskip, tried_of_disabled henabled, ih]
      | true =>
          have hrun := Stage.value_run henabled text
          rw [runStages, if_pos henabled, Traced.value_bind, hrun]
          cases hlast : (s.failure? text).isSome && halting with
          | true =>
              obtain ⟨hfailure, rfl⟩ := Bool.and_eq_true_iff.1 hlast
              rw [tried_of_failure henabled hfailure]
              simp [madeBy, Stage.made_of_failure hfailure]
          | false =>
              rw [tried_cons henabled hlast]
              simp [ih, madeBy]

/-- Disabled stages leave no trace, neither in the report nor among what is logged. -/
theorem runStages_filter_enabled (halting : Bool) (stages : List Stage) (text : String) :
    runStages halting (stages.filter (·.enabled)) text = runStages halting stages text := by
  induction stages generalizing text with
  | nil => rfl
  | cons s rest ih =>
      cases henabled : s.enabled with
      | false => simp [henabled, runStages, ih]
      | true => simp [henabled, runStages, ih]

/-! ## The law of a run -/

/-- What the report of a run says, for the stages that are enabled and those that are tried. -/
structure Report.Accounts (r : Report) (halting : Bool) (enabled tried : List Stage)
    (text : String) : Prop where
  /-- All enabled stages are tried, unless the run may halt and one of them fails. -/
  tried_eq : (halting = true → ∀ i, failureAt? enabled text i = none) → tried = enabled
  /-- A run that may halt tries no stage behind the first one that fails. -/
  tried_eq_take : halting = true → ∀ i, failureAt? enabled text i ≠ none →
    (∀ j < i, failureAt? enabled text j = none) → tried = enabled.take (i + 1)
  content_eq : r.content = madeBy tried text
  stages_eq : r.stages = reportsOf tried text
  applied_eq : r.applied = tried.length
  success_iff : r.success = true ↔ ∀ i, failureAt? tried text i = none
  /-- What is said of the whole run is what is said of the first stage that fails. -/
  error_eq : ∀ i e, failureAt? tried text i = some e →
    (∀ j < i, failureAt? tried text j = none) → r.error = some e
  halted_iff : r.halted = true ↔ halting = true ∧ ∃ i, failureAt? tried text i ≠ none

theorem tried_of_passing (h : halting = true →
    ∀ i, failureAt? (stages.filter (·.enabled)) text i = none) :
    tried halting stages text = stages.filter (·.enabled) := by
  cases halting with
  | false => rfl
  | true =>
      have hpasses := forall_failureAt?_eq_none_iff.1 (h rfl)
      have hnone : (reportsOf (stages.filter (·.enabled)) text).findIdx (·.error.isSome) =
          (stages.filter (·.enabled)).length := by
        rw [List.findIdx_eq_length_of_false, length_reportsOf]
        intro r hr
        simp [hpasses r hr]
      rw [tried, if_pos rfl, hnone]
      exact List.take_of_length_le (Nat.le_succ _)

theorem tried_of_first {i : Nat} {e : String}
    (hi : failureAt? (stages.filter (·.enabled)) text i = some e)
    (hfirst : ∀ j < i, failureAt? (stages.filter (·.enabled)) text j = none) :
    tried true stages text = (stages.filter (·.enabled)).take (i + 1) := by
  obtain ⟨before, r, after, hsplit, hlength, herror, hbefore⟩ := exists_reportsOf_of_first hi hfirst
  have hpassing : before.findIdx (·.error.isSome) = before.length := by
    apply List.findIdx_eq_length_of_false
    intro b hb
    simp [hbefore b hb]
  have hindex : (reportsOf (stages.filter (·.enabled)) text).findIdx (·.error.isSome) = i := by
    rw [hsplit, List.findIdx_append, hpassing, if_neg (Nat.lt_irrefl _), List.findIdx_cons, herror]
    simp [hlength]
  rw [tried, if_pos rfl, hindex]

theorem Report.success_iff (r : Report) : r.success = true ↔ ∀ s ∈ r.stages, s.error = none := by
  rw [success, error, Option.isNone_iff_eq_none, List.findSome?_eq_none_iff]

/-- A run reports on the enabled stages, as far as it tries them. Disabled stages leave no trace,
neither in the report nor among what is logged. -/
theorem runStages_accounts (halting : Bool) (stages : List Stage) (text : String) :
    runStages halting (stages.filter (·.enabled)) text = runStages halting stages text ∧
    (runStages halting stages text).value.Accounts halting (stages.filter (·.enabled))
      (tried halting stages text) text := by
  refine ⟨runStages_filter_enabled halting stages text, ?_⟩
  rw [value_runStages]
  have hsuccess : (Report.mk (madeBy (tried halting stages text) text)
      (reportsOf (tried halting stages text) text) halting).success = true ↔
      ∀ i, failureAt? (tried halting stages text) text i = none := by
    rw [Report.success_iff, forall_failureAt?_eq_none_iff]
  constructor
  case tried_eq => exact tried_of_passing
  case tried_eq_take =>
    rintro rfl i hi hfirst
    obtain ⟨e, he⟩ := Option.ne_none_iff_exists'.1 hi
    exact tried_of_first he hfirst
  case content_eq => rfl
  case stages_eq => rfl
  case applied_eq => exact length_reportsOf _ _
  case success_iff => exact hsuccess
  case error_eq =>
    intro i e hi hfirst
    obtain ⟨before, r, after, hsplit, -, herror, hbefore⟩ := exists_reportsOf_of_first hi hfirst
    rw [Report.error]
    exact List.findSome?_eq_some_iff.2 ⟨before, r, after, hsplit, herror, hbefore⟩
  case halted_iff =>
    rw [Report.halted, Bool.and_eq_true, Bool.not_eq_true', ← Bool.not_eq_true, hsuccess, and_comm]
    simp

end FolderTag.Transform
