import FolderTag.Proofs.Matching.Selection
import FolderTag.Proofs.Rule.Validation
import FolderTag.Proofs.Pattern.Matching

/-! # When a selection comes to an end -/

namespace FolderTag.Matching

open FolderTag.Document FolderTag.Log FolderTag.Pattern FolderTag.Rule

variable {text : String} {q : Query} {r : Rule} {rules : List Rule} {m best : RuleMatch}
variable {ms : List RuleMatch} {side : Side} {d : Direction}

/-! ## Evaluation -/

/-- Whether a rule is looked at: it is enabled, or disabled rules take part. -/
def Query.considers (q : Query) (r : Rule) : Bool := r.enabled.isSet || q.includeDisabled

/-- A rule that is looked at is evaluated to the end exactly when it is passed over for a direction
that it names, or is not passed over and its pattern, if it has one, answers for the text. -/
theorem exists_evaluate_iff_answers (hside : q.side = some side) :
    (∃ o, (evaluate text q r).outcome = .ok o) ↔
      (q.considers r = true → (q.admits r.direction = false → r.direction ≠ none) ∧
        (q.admits r.direction = true → ∀ pattern, (q.endpoint r).usedPattern? = some pattern →
          ∃ b, (isMatch text pattern "").outcome = .ok b)) := by
  have hskipped : (!r.enabled.isSet && !q.includeDisabled) = !q.considers r := (Bool.not_or ..).symm
  rw [evaluate, hskipped]
  cases q.considers r with
  | false => simp
  | true =>
      cases q.admits r.direction with
      | false =>
          cases r.direction with
          | none => simp [choiceName]
          | some direction => simp [choiceName]
      | true =>
          cases (q.endpoint r).usedPattern? with
          | none => simp [hside, choiceName]
          | some pattern =>
              cases hmatch : (isMatch text pattern "").outcome with
              | error stop => simp [hmatch]
              | ok matched => cases matched <;> simp [hmatch]

theorem exists_evaluate_iff (hside : q.side = some side) (hasked : q.direction = some d)
    (hsound : r.IsSound) :
    (∃ o, (evaluate text q r).outcome = .ok o) ↔ (q.considers r = true → r.direction ≠ none) := by
  rw [exists_evaluate_iff_answers hside]
  refine forall_congr' fun _ => ?_
  have hanswers (pattern : String) (h : (q.endpoint r).usedPattern? = some pattern) :
      ∃ b, (isMatch text pattern "").outcome = .ok b := by
    obtain ⟨entry, hcompile⟩ := hsound.compiles _ pattern h
    exact ⟨_, outcome_isMatch_of_compile hcompile⟩
  constructor
  · rintro ⟨hdirection, -⟩ hnone
    exact hdirection (by simp [Query.admits, hasked, hnone]) hnone
  · intro hdirection
    exact ⟨fun _ => hdirection, fun _ => hanswers⟩

theorem exists_matchesOf_iff :
    (∃ found, (matchesOf text q rules).outcome = .ok found) ↔
      ∀ r ∈ rules, ∃ o, (evaluate text q r).outcome = .ok o := by
  simp only [outcome_matchesOf_iff, exists_and_left, exists_eq, and_true]

/-! ## Whole priorities -/

/-- Whether a match has a whole number for its priority. -/
def RuleMatch.IsRanked (m : RuleMatch) : Prop := ∃ n, m.priority.whole? = some n

/-- The priority number of a match; zero stands for a priority that is no whole number. -/
def RuleMatch.rank (m : RuleMatch) : Int := m.priority.whole?.getD 0

theorem RuleMatch.IsRanked.whole?_eq (h : m.IsRanked) : m.priority.whole? = some m.rank := by
  obtain ⟨n, hn⟩ := h
  rw [RuleMatch.rank, hn]
  rfl

theorem bool_or_int_of_whole {a : Value} {n : Int} (h : a.whole? = some n) :
    (∃ b, a = .bool b) ∨ a = .int n := by
  cases a <;> simp_all [Value.whole?]

/-- Whole numbers have an order between them, also where truth values stand for them. -/
theorem before_of_whole {a b : Value} {m n : Int} (ha : a.whole? = some m)
    (hb : b.whole? = some n) : a.before b = .ok (some (compare m n) == some .lt) := by
  rcases bool_or_int_of_whole ha with ⟨x, rfl⟩ | rfl <;>
    rcases bool_or_int_of_whole hb with ⟨y, rfl⟩ | rfl <;>
    simp_all [Value.before, Value.compareNumbers]

/-- Whole priorities are equal as their numbers are. -/
theorem equal_of_whole {v w : Value} {n k : Int} (hv : v.whole? = some n) (hw : w.whole? = some k) :
    v.equal w = decide (n = k) := by
  have hcompare : (compare n k == .eq) = decide (n = k) := by simp [beq_eq_decide]
  rcases bool_or_int_of_whole hv with ⟨x, rfl⟩ | rfl <;>
    rcases bool_or_int_of_whole hw with ⟨y, rfl⟩ | rfl <;>
    simpa [Value.equal, Value.compareNumbers, hv, hw] using hcompare

theorem asKey_of_whole {a : Value} {n : Int} (h : a.whole? = some n) : a.asKey = .ok a := by
  rcases bool_or_int_of_whole h with ⟨b, rfl⟩ | rfl <;> rfl

theorem exists_precedes {a b : RuleMatch} (ha : a.IsRanked) (hb : b.IsRanked) :
    ∃ o, a.precedes b = .ok o := by
  obtain ⟨m, hm⟩ := ha
  obtain ⟨n, hn⟩ := hb
  rw [RuleMatch.precedes]
  split
  · exact ⟨_, rfl⟩
  · exact ⟨_, before_of_whole hm hn⟩

theorem exists_bestFrom (hbest : best.IsRanked) (hms : ∀ m ∈ ms, m.IsRanked) :
    ∃ m, bestFrom best ms = .ok m := by
  induction ms generalizing best with
  | nil => exact ⟨best, rfl⟩
  | cons a ms ih =>
      obtain ⟨ha, hms⟩ := List.forall_mem_cons.1 hms
      obtain ⟨better, hbetter⟩ := exists_precedes ha hbest
      rw [bestFrom, hbetter, ok_bind]
      cases better with
      | false => exact ih hbest hms
      | true => exact ih ha hms

theorem exists_bestOf (h : ∀ m ∈ ms, m.IsRanked) : ∃ o, bestOf ms = .ok o := by
  cases ms with
  | nil => exact ⟨none, rfl⟩
  | cons a ms =>
      obtain ⟨ha, hms⟩ := List.forall_mem_cons.1 h
      obtain ⟨m, hm⟩ := exists_bestFrom ha hms
      exact ⟨some m, by rw [bestOf, hm]; rfl⟩

/-! ## Selection -/

theorem isRanked_of_mem (hwhole : ∀ r ∈ rules, ∃ n, r.priority.whole? = some n)
    {found : List RuleMatch} (h : (matchesOf text q rules).outcome = .ok found) :
    ∀ m ∈ found, m.IsRanked := by
  intro m hm
  obtain ⟨r, hr, heval⟩ := (mem_of_matchesOf_iff h).1 hm
  obtain ⟨rfl, -⟩ := isMatch_of_evaluate heval
  exact hwhole _ hr

/-- Among rules without problems, a selection comes to an end exactly when every rule that is
looked at says in which direction it may be used. -/
theorem exists_findBest_iff (hside : q.side = some side) (hasked : q.direction = some d)
    (hsound : ∀ r ∈ rules, r.IsSound) :
    (∃ o, (findBest text q rules).outcome = .ok o) ↔
      ∀ r ∈ rules, q.considers r = true → r.direction ≠ none := by
  have hmatches : (∃ found, (matchesOf text q rules).outcome = .ok found) ↔
      ∀ r ∈ rules, q.considers r = true → r.direction ≠ none := by
    rw [exists_matchesOf_iff]
    exact forall₂_congr fun r hr => exists_evaluate_iff hside hasked (hsound r hr)
  rw [← hmatches]
  constructor
  · rintro ⟨o, h⟩
    obtain ⟨found, hfound, -⟩ := outcome_findBest_iff.1 h
    exact ⟨found, hfound⟩
  · rintro ⟨found, hfound⟩
    obtain ⟨o, ho⟩ := exists_bestOf (isRanked_of_mem (fun r hr => (hsound r hr).exists_whole) hfound)
    exact ⟨o, outcome_findBest_iff.2 ⟨found, hfound, ho⟩⟩

end FolderTag.Matching
