import FolderTag.Proofs.Transform.Rewrite
import FolderTag.Proofs.Transform.Stage

/-! # What a recipe makes of a text

Only rewrites can fail. Where they come to an end, a recipe is the composition of the functions that
its settings ask for; where one is stopped, nothing of them is left. -/

namespace FolderTag.Transform

open FolderTag.Document FolderTag.Log FolderTag.Text

/-! ## Runs of stages -/

/-- The stages of a run that failed. -/
def Report.failures (r : Report) : List StageReport := r.stages.filter (·.error.isSome)

/-- What a run made, and its failures. -/
def Report.result (r : Report) : String × List StageReport := (r.content, r.failures)

theorem Report.error_eq (r : Report) : r.error = r.failures.head?.bind (·.error) := by
  rw [error, failures]
  induction r.stages with
  | nil => rfl
  | cons s stages ih =>
      cases h : s.error with
      | none => simp [h, ih]
      | some e => simp [h]

variable {halting : Bool} {rest : List Stage} {text : String}

@[simp] theorem result_runStages_nil (text : String) :
    (runStages halting [] text).value.result = (text, []) := rfl

/-- A stage that comes to an end hands its text on. -/
theorem result_runStages_of_ok {s : Stage} {made : String} (henabled : s.enabled = true)
    (h : (s.transform text).outcome = .ok made) :
    (runStages halting (s :: rest) text).value.result =
      (runStages halting rest made).value.result := by
  have hmade : s.made text = made := by rw [Stage.made, h]
  have hpasses : s.failure? text = none := by rw [Stage.failure?, h]
  rw [runStages, if_pos henabled, Traced.value_bind, Stage.value_run henabled, hmade, hpasses]
  rfl

/-- No stage runs behind one that fails. -/
theorem result_runStages_of_error {s : Stage} {e : String} (henabled : s.enabled = true)
    (h : (s.transform text).outcome = .error e) :
    (runStages true (s :: rest) text).value.result =
      (text, [{ name := s.name, error := some (s.name ++ ": " ++ e) }]) := by
  have hmade : s.made text = text := by rw [Stage.made, h]
  have hfails : s.failure? text = some (s.name ++ ": " ++ e) := by rw [Stage.failure?, h]
  rw [runStages, if_pos henabled, Traced.value_bind, Stage.value_run henabled, hmade, hfails]
  rfl

@[simp] theorem result_runStages_ofChars (sort name : String) (f : List Char → List Char)
    (text : String) :
    (runStages halting (Stage.ofChars sort name f :: rest) text).value.result =
      (runStages halting rest (String.ofList (f text.toList))).value.result :=
  result_runStages_of_ok rfl rfl

/-- A stage that is left out hands its text on, too. -/
@[simp] theorem result_runStages_when (b : Bool) (sort name : String) (f : List Char → List Char)
    (text : String) :
    (runStages halting ((if b then [Stage.ofChars sort name f] else []) ++ rest)
        text).value.result =
      (runStages halting rest
        (String.ofList (if b then f text.toList else text.toList))).value.result := by
  cases b
  · simp
  · exact result_runStages_ofChars sort name f text

theorem outcome_rewrites (name : String) (rs : List Rewrite) (text : String) :
    ((Stage.rewrites name rs).transform text).outcome =
      (Rewrite.applyAll rs text).outcome.mapError fun i => i.message :=
  Attempt.outcome_adapt _ _

/-- The stage of the rewrites, which is left out where there are none. -/
def rewriteStages (rs : List Rewrite) : List Stage :=
  if rs.isEmpty then [] else [Stage.rewrites "custom_regex" rs]

theorem result_runStages_rewritten {rs : List Rewrite} {made : String}
    (h : Rewritten rs text made) :
    (runStages halting (rewriteStages rs ++ rest) text).value.result =
      (runStages halting rest made).value.result := by
  cases rs with
  | nil =>
      cases h
      rfl
  | cons r rs =>
      apply result_runStages_of_ok rfl
      rw [outcome_rewrites, rewritten_iff.1 h, mapError_ok]

theorem result_runStages_stopped {rs : List Rewrite} {i : Pattern.Interruption}
    (h : Stopped rs text i) :
    (runStages true (rewriteStages rs ++ rest) text).value.result =
      (text, [{ name := "custom_regex", error := some ("custom_regex: " ++ i.message) }]) := by
  cases rs with
  | nil => cases h
  | cons r rs =>
      apply result_runStages_of_error rfl
      rw [outcome_rewrites, stopped_iff.1 h, mapError_error]

namespace Recipe

/-- What the stages before the rewrites make of a text. -/
def drafted (r : Recipe) (s : List Char) : List Char :=
  let s := trim s
  let s := if r.stripsEmoji then stripEmoji s else s
  let s := if r.stripsNumber then stripNumber s else s
  match r.converts? with
  | some k => k.applyToPath s
  | none => s

/-- What the stages behind the rewrites make of a text. -/
def finished (forTag : Bool) (s : List Char) : List Char :=
  trim (if forTag then dropTagBreakers s else s)

variable {r : Recipe} {text made : String} {i : Pattern.Interruption}

/-- The stages before the rewrites cannot fail, and each works on what the ones before it made. -/
theorem result_run (r : Recipe) (forTag : Bool) (text : String) :
    (r.run forTag text).value.result =
      (runStages true (rewriteStages r.rewrites ++
        ((if forTag then [Stage.tagChars "tag_chars"] else []) ++ [Stage.trim "final_trim"]))
        (String.ofList (r.drafted text.toList))).value.result := by
  rw [run, stages]
  cases hk : r.converts? <;>
    simp [Stage.trim, Stage.emoji, Stage.number, Stage.convention, drafted, rewriteStages, hk]

theorem result_run_of_rewritten (forTag : Bool)
    (h : Rewritten r.rewrites (String.ofList (r.drafted text.toList)) made) :
    (r.run forTag text).value.result = (String.ofList (finished forTag made.toList), []) := by
  rw [result_run, result_runStages_rewritten h]
  simp [Stage.tagChars, Stage.trim, finished]

theorem result_run_of_stopped (forTag : Bool)
    (h : Stopped r.rewrites (String.ofList (r.drafted text.toList)) i) :
    (r.run forTag text).value.result = (String.ofList (r.drafted text.toList),
      [{ name := "custom_regex", error := some ("custom_regex: " ++ i.message) }]) := by
  rw [result_run, result_runStages_stopped h]

theorem value_apply_of_rewritten (forTag preserve : Bool)
    (h : Rewritten r.rewrites (String.ofList (r.drafted text.toList)) made) :
    (r.apply forTag preserve text).value = String.ofList (finished forTag made.toList) := by
  have hresult := result_run_of_rewritten forTag h
  rw [Report.result, Prod.mk.injEq] at hresult
  rw [apply, Traced.value_bind, Report.error_eq, hresult.2, ← hresult.1]
  rfl

theorem value_apply_of_stopped (forTag preserve : Bool)
    (h : Stopped r.rewrites (String.ofList (r.drafted text.toList)) i) :
    (r.apply forTag preserve text).value =
      if preserve then text else String.ofList (r.drafted text.toList) := by
  have hresult := result_run_of_stopped forTag h
  rw [Report.result, Prod.mk.injEq] at hresult
  rw [apply, Traced.value_bind, Report.error_eq, hresult.2, ← hresult.1]
  rfl

/-- Without rewrites a recipe makes what its stages make one after another. -/
theorem value_apply_of_rewrites_nil {r : Recipe} (h : r.rewrites = []) (forTag preserve : Bool)
    (text : String) :
    (r.apply forTag preserve text).value =
      String.ofList (finished forTag (r.drafted text.toList)) := by
  have hnil : Rewritten r.rewrites (String.ofList (r.drafted text.toList))
      (String.ofList (r.drafted text.toList)) := by
    rw [h]
    exact .nil _
  rw [value_apply_of_rewritten forTag preserve hnil, String.toList_ofList]

/-- A recipe makes something of every text. Where the rewrites come to an end, no stage fails and
the text has gone through all stages. Where one is stopped, theirs is the only stage that fails, and
the result is the text itself or what the stages before the rewrites made of it. -/
theorem apply_of_every_text (r : Recipe) (forTag preserve : Bool) (text : String) :
    let draft := String.ofList (r.drafted text.toList)
    ((∃ made, Rewritten r.rewrites draft made) ∨ ∃ i, Stopped r.rewrites draft i) ∧
    (∀ made, Rewritten r.rewrites draft made →
      (r.run forTag text).value.failures = [] ∧
      (r.apply forTag preserve text).value = String.ofList (finished forTag made.toList)) ∧
    (∀ i, Stopped r.rewrites draft i →
      (r.run forTag text).value.failures =
        [{ name := "custom_regex", error := some ("custom_regex: " ++ i.message) }] ∧
      (r.apply forTag preserve text).value = if preserve then text else draft) := by
  intro draft
  refine ⟨rewritten_or_stopped r.rewrites draft, ?_, ?_⟩
  · intro made h
    exact ⟨congrArg Prod.snd (result_run_of_rewritten forTag h),
      value_apply_of_rewritten forTag preserve h⟩
  · intro i h
    exact ⟨congrArg Prod.snd (result_run_of_stopped forTag h),
      value_apply_of_stopped forTag preserve h⟩

end Recipe

end FolderTag.Transform
