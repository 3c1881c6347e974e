import FolderTag.Proofs.Outcome
import FolderTag.Transform.Rewrite

/-! # Rewrites one after another

Each rewrite works on what the ones before it made. Either all of them come to an end, or one is
stopped and no rewrite behind it is looked at. -/

namespace FolderTag.Transform

open FolderTag.Log FolderTag.Pattern

/-- All rewrites come to an end and make `t` of `s`. -/
inductive Rewritten : List Rewrite → (s t : String) → Prop where
  | nil (s) : Rewritten [] s s
  | cons {r rs s next t} : (r.apply s).outcome = .ok next → Rewritten rs next t →
      Rewritten (r :: rs) s t

/-- One of the rewrites is stopped on what the ones before it made of `s`. -/
inductive Stopped : List Rewrite → (s : String) → Interruption → Prop where
  | here {r rs s i} : (r.apply s).outcome = .error i → Stopped (r :: rs) s i
  | behind {r rs s next i} : (r.apply s).outcome = .ok next → Stopped rs next i →
      Stopped (r :: rs) s i

variable {rs : List Rewrite} {s t : String} {i : Interruption}

@[simp] theorem Rewrite.outcome_applyAll_cons (r : Rewrite) (rs : List Rewrite) (s : String) :
    (Rewrite.applyAll (r :: rs) s).outcome =
      (r.apply s).outcome >>= fun s => (Rewrite.applyAll rs s).outcome := by
  rw [Rewrite.applyAll, List.foldlM_cons, Attempt.outcome_bind]
  rfl

theorem rewritten_iff : Rewritten rs s t ↔ (Rewrite.applyAll rs s).outcome = .ok t := by
  constructor
  · intro h
    induction h with
    | nil s => rfl
    | cons hfirst _ ih => rw [Rewrite.outcome_applyAll_cons, hfirst, ok_bind, ih]
  · intro h
    induction rs generalizing s with
    | nil =>
        cases h
        exact .nil _
    | cons r rs ih =>
        rw [Rewrite.outcome_applyAll_cons, bind_eq_ok_iff] at h
        obtain ⟨next, hfirst, h⟩ := h
        exact .cons hfirst (ih h)

theorem stopped_iff : Stopped rs s i ↔ (Rewrite.applyAll rs s).outcome = .error i := by
  constructor
  · intro h
    induction h with
    | here hfirst => rw [Rewrite.outcome_applyAll_cons, hfirst, error_bind]
    | behind hfirst _ ih => rw [Rewrite.outcome_applyAll_cons, hfirst, ok_bind, ih]
  · intro h
    induction rs generalizing s with
    | nil => cases h
    | cons r rs ih =>
        rw [Rewrite.outcome_applyAll_cons] at h
        cases hfirst : (r.apply s).outcome with
        | error j =>
            rw [hfirst, error_bind, Except.error.injEq] at h
            exact .here (h ▸ hfirst)
        | ok next =>
            rw [hfirst, ok_bind] at h
            exact .behind hfirst (ih h)

/-- There is no third way for rewrites to go. -/
theorem rewritten_or_stopped (rs : List Rewrite) (s : String) :
    (∃ t, Rewritten rs s t) ∨ ∃ i, Stopped rs s i := by
  cases h : (Rewrite.applyAll rs s).outcome with
  | ok t => exact .inl ⟨t, rewritten_iff.2 h⟩
  | error i => exact .inr ⟨i, stopped_iff.2 h⟩

end FolderTag.Transform
