import FolderTag.Pattern.Cache
import FolderTag.Proofs.Outcome

/-! # What is remembered

A memory answers as if it were not there. What it holds are the latest requests that were answered,
each once. A request to the memory of entries asks the memory of expressions only where it is not
remembered itself, so what the second holds depends on what the first has forgotten. -/

namespace FolderTag.Pattern

/-! ## Requests in the order of their last mention -/

section Latest

variable {κ : Type} [DecidableEq κ]

/-- What was asked for, each once, for a list with the latest request first. -/
def latest : List κ → List κ
  | [] => []
  | k :: ks => k :: (latest ks).filter (· ≠ k)

theorem nodup_latest (ks : List κ) : (latest ks).Nodup := by
  induction ks with
  | nil => exact List.nodup_nil
  | cons a ks ih =>
      rw [latest, List.nodup_cons]
      exact ⟨by simp, ih.filter _⟩

/-- What has been left out of a list does not come back when one more request is put first. -/
theorem take_filter_take {ks : List κ} (h : ks.Nodup) (k : κ) (n : Nat) :
    ((ks.take (n + 1)).filter (· ≠ k)).take n = (ks.filter (· ≠ k)).take n := by
  induction ks generalizing n with
  | nil => rfl
  | cons a ks ih =>
      obtain ⟨ha, hks⟩ := List.nodup_cons.1 h
      by_cases hak : a = k
      · subst hak
        -- The one place of the request is the first; behind it nothing is left out.
        have hall : ∀ b ∈ ks, b ≠ a := fun b hb hba => ha (hba ▸ hb)
        have hfilter : ks.filter (· ≠ a) = ks := List.filter_eq_self.2 (by simpa using hall)
        have htake : (ks.take n).filter (· ≠ a) = ks.take n :=
          List.filter_eq_self.2 (by simpa using fun b hb => hall b (List.mem_of_mem_take hb))
        rw [List.take_succ_cons, List.filter_cons_of_neg (by simp), List.filter_cons_of_neg (by simp),
          htake, hfilter, List.take_take, Nat.min_self]
      · cases n with
        | zero => simp
        | succ n => simpa [hak] using ih hks n

end Latest

/-! ## One memory -/

/-- What a memory holds after some requests, the latest first, that `answer` has a result for. -/
structure Recent.Holds {κ α ε : Type} [DecidableEq κ] (m : Recent κ α) (answer : κ → Except ε α)
    (asked : List κ) : Prop where
  keys_eq : m.items.map (·.1) = (latest asked).take capacity
  answer_eq : ∀ e ∈ m.items, answer e.1 = .ok e.2

/-- A request, if it has a result. -/
def answered {κ α ε : Type} (answer : κ → Except ε α) (k : κ) : List κ :=
  if (answer k).isOk then [k] else []

section Recent

variable {κ α ε : Type} {answer : κ → Except ε α} {k : κ} {a : α}

theorem answered_of_ok (h : answer k = .ok a) : answered answer k = [k] := by
  rw [answered, h]
  rfl

theorem answered_of_error {e : ε} (h : answer k = .error e) : answered answer k = [] := by
  rw [answered, h]
  rfl

namespace Recent.Holds

variable [DecidableEq κ] {m : Recent κ α} {asked : List κ}

theorem empty : Holds ({} : Recent κ α) answer [] := ⟨by simp [latest], by simp⟩

theorem size_le (h : m.Holds answer asked) : m.size ≤ capacity := by
  rw [Recent.size, ← List.length_map (·.1), h.keys_eq]
  exact List.length_take_le _ _

theorem answer_of_find? (h : m.Holds answer asked) (hfind : m.find? k = some a) :
    answer k = .ok a := by
  obtain ⟨e, he, rfl⟩ := Option.map_eq_some_iff.1 hfind
  have hk : e.1 = k := by simpa using List.find?_some he
  rw [← hk]
  exact h.answer_eq e (List.mem_of_find?_eq_some he)

theorem find?_eq_none_iff (h : m.Holds answer asked) :
    m.find? k = none ↔ k ∉ (latest asked).take capacity := by
  rw [← h.keys_eq, Recent.find?, Option.map_eq_none_iff, List.find?_eq_none]
  simp only [decide_eq_true_eq, List.mem_map, not_exists, not_and]

theorem touch (h : m.Holds answer asked) (ha : answer k = .ok a) :
    (m.touch k a).Holds answer (k :: asked) where
  keys_eq := by
    have hkeys : (m.items.filter fun e => e.1 ≠ k).map (·.1) =
        ((latest asked).take capacity).filter (· ≠ k) := by
      rw [← h.keys_eq, List.filter_map]
      rfl
    calc ((m.touch k a).items).map (·.1)
      _ = (k :: ((latest asked).take capacity).filter (· ≠ k)).take capacity := by
          rw [Recent.touch, List.map_take, List.map_cons, hkeys]
      _ = (latest (k :: asked)).take capacity := by
          rw [latest, capacity, List.take_succ_cons, List.take_succ_cons,
            take_filter_take (nodup_latest asked)]
  answer_eq := by
    intro e he
    rcases List.mem_cons.1 (List.mem_of_mem_take he) with rfl | he
    · exact ha
    · exact h.answer_eq e (List.mem_filter.1 he).1

theorem hit (h : m.Holds answer asked) (ha : answer k = .ok a) :
    (m.hit k a).Holds answer (k :: asked) :=
  ⟨(h.touch ha).keys_eq, (h.touch ha).answer_eq⟩

end Recent.Holds

end Recent

/-! ## Both memories -/

/-- What a request for an entry comes to without any memory. -/
def Request.entry (r : Request) : Except Refusal Entry := compile r.pattern r.flagText

/-- What a request for an expression comes to without any memory. -/
def Request.expression (r : Request) : Except Refusal Regex.Expression :=
  compileRegex r.pattern r.flagText

/-- The request for an expression that a request for an entry leads to: its flags are passed on. -/
def Request.inner (r : Request) : Request := { r with flags := some r.flagText }

@[simp] theorem Request.expression_inner (r : Request) : r.inner.expression = r.expression := rfl

/-- The entry of a regular expression is made from its expression. -/
theorem Request.entry_of_not_isGlob {r : Request} (h : isGlob r.pattern = false) :
    r.entry = r.expression.map fun expression =>
      { pattern := r.pattern, kind := .regex, expression, flags := r.flagText } := by
  rw [entry, expression, compile, h]
  rfl

/-- Something that is asked of the memories. -/
inductive Call where
  | entry (r : Request)
  | expression (r : Request)
  | clear

/-- What is answered to a call. -/
inductive Answer where
  | entry (result : Except Refusal Entry)
  | expression (result : Except Refusal Regex.Expression)
  | cleared

/-- The answer without any memory. -/
def Call.answer : Call → Answer
  | .entry r => .entry r.entry
  | .expression r => .expression r.expression
  | .clear => .cleared

/-- The requests for entries that had a result since the memories were last cleared. Calls and
requests have the latest one first. -/
def entryRequests : List Call → List Request
  | [] => []
  | .entry r :: before => answered Request.entry r ++ entryRequests before
  | .expression _ :: before => entryRequests before
  | .clear :: _ => []

/-- The requests for expressions that had a result since the memories were last cleared: those that
were made as such, and those of entries that were neither globs nor among the latest ones. -/
def expressionRequests : List Call → List Request
  | [] => []
  | .entry r :: before =>
      if isGlob r.pattern ∨ r ∈ (latest (entryRequests before)).take capacity then
        expressionRequests before
      else answered Request.expression r.inner ++ expressionRequests before
  | .expression r :: before => answered Request.expression r ++ expressionRequests before
  | .clear :: _ => []

namespace Cache

/-- Answers one call. -/
def step (c : Cache) : Call → Answer × Cache
  | .entry r => ((.entry (c.compile r).1), (c.compile r).2)
  | .expression r => ((.expression (c.compileRegex r).1), (c.compileRegex r).2)
  | .clear => (.cleared, .empty)

/-- The answers to calls that are made one after another. -/
def answers (c : Cache) : List Call → List Answer
  | [] => []
  | call :: calls => (c.step call).1 :: (c.step call).2.answers calls

/-- The memories after some calls. -/
def after (c : Cache) (calls : List Call) : Cache := calls.foldl (fun c call => (c.step call).2) c

/-- What the memories hold after some calls, the latest first. -/
structure Holds (c : Cache) (calls : List Call) : Prop where
  entries : c.entries.Holds Request.entry (entryRequests calls)
  expressions : c.expressions.Holds Request.expression (expressionRequests calls)

variable {c : Cache} {calls : List Call}

theorem compileRegex_spec {asked : List Request} (r : Request)
    (h : c.expressions.Holds Request.expression asked) :
    (c.compileRegex r).1 = r.expression ∧ (c.compileRegex r).2.entries = c.entries ∧
      (c.compileRegex r).2.expressions.Holds Request.expression
        (answered Request.expression r ++ asked) := by
  rw [compileRegex]
  cases hfind : c.expressions.find? r with
  | some e =>
      have he := h.answer_of_find? hfind
      refine ⟨he.symm, rfl, ?_⟩
      rw [answered_of_ok he]
      exact h.hit he
  | none =>
      cases hcompile : Pattern.compileRegex r.pattern r.flagText with
      | ok e =>
          have he : r.expression = .ok e := hcompile
          refine ⟨he.symm, rfl, ?_⟩
          rw [answered_of_ok he]
          exact h.touch he
      | error refusal =>
          have he : r.expression = .error refusal := hcompile
          refine ⟨he.symm, rfl, ?_⟩
          rw [answered_of_error he]
          exact h

/-- Compiling anew leaves the memory of entries alone and asks that of expressions unless the
pattern is a glob. -/
theorem compileAnew_spec {asked : List Request} (r : Request)
    (h : c.expressions.Holds Request.expression asked) :
    (c.compileAnew r).1 = r.entry ∧ (c.compileAnew r).2.entries = c.entries ∧
      (c.compileAnew r).2.expressions.Holds Request.expression
        (if isGlob r.pattern then asked else answered Request.expression r.inner ++ asked) := by
  rw [compileAnew]
  cases hglob : isGlob r.pattern with
  | true => exact ⟨rfl, rfl, by simpa using h⟩
  | false =>
      obtain ⟨hresult, hentries, hexpressions⟩ := compileRegex_spec r.inner h
      refine ⟨?_, hentries, hexpressions⟩
      rw [Request.entry_of_not_isGlob hglob, ← Request.expression_inner, ← hresult]
      rfl

theorem compile_spec (r : Request) (h : c.Holds calls) :
    (c.compile r).1 = r.entry ∧ (c.compile r).2.Holds (.entry r :: calls) := by
  rw [compile]
  cases hfind : c.entries.find? r with
  | some e =>
      have he := h.entries.answer_of_find? hfind
      have hmem : r ∈ (latest (entryRequests calls)).take capacity := by
        refine Decidable.byContradiction fun hmem => ?_
        rw [h.entries.find?_eq_none_iff.2 hmem] at hfind
        cases hfind
      refine ⟨he.symm, ?_, ?_⟩
      · rw [entryRequests, answered_of_ok he]
        exact h.entries.hit he
      · rw [expressionRequests, if_pos (.inr hmem)]
        exact h.expressions
  | none =>
      have hmem := h.entries.find?_eq_none_iff.1 hfind
      obtain ⟨hresult, hentries, hexpressions⟩ := compileAnew_spec r h.expressions
      have hrequests : expressionRequests (.entry r :: calls) =
          if isGlob r.pattern then expressionRequests calls
          else answered Request.expression r.inner ++ expressionRequests calls := by
        rw [expressionRequests]
        simp only [hmem, or_false]
      rw [← hrequests] at hexpressions
      rcases hanew : c.compileAnew r with ⟨result, c'⟩
      rw [hanew] at hresult hentries hexpressions
      have hheld : c'.entries.Holds Request.entry (entryRequests calls) := hentries ▸ h.entries
      cases result with
      | ok e =>
          refine ⟨hresult, ?_, hexpressions⟩
          rw [entryRequests, answered_of_ok hresult.symm]
          exact hheld.touch hresult.symm
      | error refusal =>
          refine ⟨hresult, ?_, hexpressions⟩
          rw [entryRequests, answered_of_error hresult.symm]
          exact hheld

theorem holds_empty : empty.Holds [] := ⟨.empty, .empty⟩

/-- One call is answered as it would be without memories, which hold what they should after it. -/
theorem step_spec (call : Call) (h : c.Holds calls) :
    (c.step call).1 = call.answer ∧ (c.step call).2.Holds (call :: calls) := by
  cases call with
  | entry r =>
      obtain ⟨hresult, hholds⟩ := compile_spec r h
      exact ⟨congrArg Answer.entry hresult, hholds⟩
  | expression r =>
      obtain ⟨hresult, hentries, hexpressions⟩ := compileRegex_spec r h.expressions
      refine ⟨congrArg Answer.expression hresult, ?_, hexpressions⟩
      rw [step, hentries]
      exact h.entries
  | clear => exact ⟨rfl, .empty, .empty⟩

/-- The same for a run of calls behind others. -/
theorem run_spec (next : List Call) (h : c.Holds calls) :
    c.answers next = next.map Call.answer ∧ (c.after next).Holds (next.reverse ++ calls) := by
  induction next generalizing c calls with
  | nil => exact ⟨rfl, h⟩
  | cons call next ih =>
      obtain ⟨hanswer, hstep⟩ := step_spec call h
      obtain ⟨hanswers, hafter⟩ := ih hstep
      refine ⟨by rw [answers, hanswer, hanswers, List.map_cons], ?_⟩
      simpa [after] using hafter

/-- Whatever is called, every call is answered as it would be without memories, and each memory
holds exactly the latest requests with a result, each once and no more of them than it can. -/
theorem answers_eq_and_holds (calls : List Call) :
    empty.answers calls = calls.map Call.answer ∧
      (empty.after calls).entries.size ≤ 512 ∧ (empty.after calls).expressions.size ≤ 512 ∧
      (empty.after calls).Holds calls.reverse := by
  obtain ⟨hanswers, hholds⟩ := run_spec calls holds_empty
  rw [List.append_nil] at hholds
  exact ⟨hanswers, hholds.entries.size_le, hholds.expressions.size_le, hholds⟩

end Cache

end FolderTag.Pattern
