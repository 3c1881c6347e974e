import FolderTag.Proofs.Rule.Completion
import FolderTag.Settings.RuleSet

/-! # How rule sets fail to be read

A document with text keys is read as a rule set or refused, unless it stops the reading altogether.
It does so with an id that is a list or mapping, with rewrites that are set and have no items, or
with a whole number that is too long for the message that would show it. -/

namespace FolderTag

open FolderTag.Document FolderTag.Rule FolderTag.Settings FolderTag.Transform

variable {P : Misuse → Prop} {document v : Value} {entries rule : Entries} {rules : List Value}

namespace Settings

/-- A refusal, or a misuse of a sort. -/
def Fault.Within (P : Misuse → Prop) : Fault → Prop
  | .refusal _ => True
  | .misuse m => P m
  | .noValue _ => False
  | .notText => False

/-- The rules of a document, as they are stored. -/
def storedRules (document : Value) : List Value :=
  match document with
  | .map entries =>
      match fieldOr entries "rules" (.list []) with
      | .list rules => rules
      | _ => []
  | _ => []

/-- What in a document stops the reading. -/
inductive Stops (document : Value) : Misuse → Prop
  | id {rule : Entries} (hrule : .map rule ∈ storedRules document)
      (hid : (fieldOr rule "id" .null).isKey = false) :
      Stops document (.unhashable (fieldOr rule "id" .null).kind)
  | rewrites {rule : Entries} {v : Value} (hrule : .map rule ∈ storedRules document)
      (hv : HasBadRewrites rule v) : Stops document (.notIterable v.fullKind)
  | digits (h : document.isShowable = false) : Stops document .tooManyDigits

/-! ## The layout -/

theorem asKey_eq_ok_iff {key : Value} : v.asKey = .ok key ↔ v = key ∧ v.isKey = true := by
  rw [Value.asKey]
  split_ifs with h <;> simp [h]

theorem failsOnly_checkRule (index : Nat) (seen : List Value) (h : Suits P v)
    (hid : ∀ rule, v = .map rule → (fieldOr rule "id" .null).isKey = false →
      P (.unhashable (fieldOr rule "id" .null).kind)) :
    FailsOnly (Rule.Fault.Within P) (checkRule index seen v) := by
  cases v with
  | map rule =>
      have hkey : FailsOnly (Rule.Fault.Within P)
          ((fieldOr rule "id" .null).asKey.mapError .misuse) := by
        rw [Value.asKey]
        split_ifs with hkey
        · exact failsOnly_ok _
        · exact failsOnly_error (hid rule rfl (Bool.not_eq_true _ ▸ hkey))
      refine hkey.bind fun id hid => ?_
      obtain ⟨rfl, -⟩ := asKey_eq_ok_iff.1 (mapError_eq_ok_iff.1 hid)
      split_ifs
      · exact (failsOnly_refuseShown (h.fieldOr suits_null) _).bind fun _ _ => failsOnly_ok _
      · exact failsOnly_ok _
  | _ => exact failsOnly_error trivial

theorem failsOnly_checkRules (index : Nat) (seen : List Value) (h : ∀ v ∈ rules, Suits P v)
    (hid : ∀ rule, .map rule ∈ rules → (fieldOr rule "id" .null).isKey = false →
      P (.unhashable (fieldOr rule "id" .null).kind)) :
    FailsOnly (Rule.Fault.Within P) (checkRules index seen rules) := by
  induction rules generalizing index seen with
  | nil => exact failsOnly_ok ()
  | cons v rules ih =>
      rw [List.forall_mem_cons] at h
      have hfirst := failsOnly_checkRule index seen h.1 fun rule hrule =>
        hid rule (hrule ▸ List.mem_cons_self ..)
      refine hfirst.bind fun id _ => ?_
      exact ih (index + 1) (id :: seen) h.2 fun rule hrule =>
        hid rule (List.mem_cons_of_mem v hrule)

/-- Behind rules that may stand where they do the check goes on. -/
theorem exists_checkRules_append {index : Nat} {seen : List Value}
    (h : checkRules index seen rules = .ok ()) :
    ∃ index' seen', ∀ others,
      checkRules index seen (rules ++ others) = checkRules index' seen' others := by
  induction rules generalizing index seen with
  | nil => exact ⟨index, seen, fun _ => rfl⟩
  | cons v rules ih =>
      obtain ⟨id, hid, h⟩ := bind_eq_ok_iff.1 h
      obtain ⟨index', seen', hothers⟩ := ih h
      refine ⟨index', seen', fun others => ?_⟩
      rw [List.cons_append, checkRules, hid, ok_bind, hothers]

theorem suits_of_mem_storedRules (h : Suits P document) (hv : v ∈ storedRules document) :
    Suits P v := by
  cases document with
  | map entries =>
      have hrules : Suits P (fieldOr entries "rules" (.list [])) :=
        h.fieldOr ⟨.list (by simp), nofun⟩
      rw [storedRules] at hv
      split at hv
      · rename_i rules heq
        exact (heq ▸ hrules).item hv
      · cases hv
  | _ => cases hv

theorem failsOnly_checkLayout (h : Suits P document)
    (hid : ∀ rule, .map rule ∈ storedRules document → (fieldOr rule "id" .null).isKey = false →
      P (.unhashable (fieldOr rule "id" .null).kind)) :
    FailsOnly (Rule.Fault.Within P) (checkLayout document) := by
  cases document with
  | map entries =>
      have hsuits (v : Value) : v ∈ storedRules (.map entries) → Suits P v :=
        suits_of_mem_storedRules h
      rw [storedRules] at hid hsuits
      rw [checkLayout]
      cases hrules : fieldOr entries "rules" (.list []) with
      | list rules =>
          rw [hrules] at hid hsuits
          refine (failsOnly_checkRules 0 [] hsuits hid).bind fun _ _ => ?_
          split
          · exact failsOnly_ok _
          · exact failsOnly_error trivial
      | _ => exact failsOnly_error trivial
  | _ => exact failsOnly_error trivial

end Settings

namespace RuleSet

theorem failsOnly_readRules (index : Nat) (h : ∀ v ∈ rules, Suits P v)
    (hrewrites : ∀ rule v, .map rule ∈ rules → HasBadRewrites rule v →
      P (.notIterable v.fullKind)) :
    FailsOnly (Settings.Fault.Within P) (readRules index rules) := by
  induction rules generalizing index with
  | nil => exact failsOnly_ok []
  | cons v rules ih =>
      rw [List.forall_mem_cons] at h
      have hfirst := Rule.failsOnly_ofValue h.1 fun rule w hrule =>
        hrewrites rule w (hrule ▸ List.mem_cons_self ..)
      have hrule : FailsOnly (Settings.Fault.Within P)
          ((Rule.ofValue v).mapError (ruleFault index)) := hfirst.mapError fun fault hfault => by
        cases fault with
        | violation _ => trivial
        | misuse m => exact hfault
      refine hrule.bind fun rule _ => ?_
      have hothers := ih (index + 1) h.2 fun rule w hrule =>
        hrewrites rule w (List.mem_cons_of_mem v hrule)
      exact hothers.bind fun others _ => failsOnly_ok (rule :: others)

theorem failsOnly_ofEntries (h : Suits P (.map entries))
    (hrewrites : ∀ rule v, .map rule ∈ storedRules (.map entries) → HasBadRewrites rule v →
      P (.notIterable v.fullKind)) :
    FailsOnly (Settings.Fault.Within P) (ofEntries entries) := by
  obtain ⟨names, hnames⟩ := exists_strangeKeys knownKeys h.keys
  rw [ofEntries, hnames, mapError_ok, ok_bind]
  cases names with
  | cons name names => exact failsOnly_error trivial
  | nil =>
      have hsuits (v : Value) : v ∈ storedRules (.map entries) → Suits P v :=
        suits_of_mem_storedRules h
      rw [storedRules] at hsuits hrewrites
      cases hrules : fieldOr entries "rules" (.list []) with
      | list rules =>
          rw [hrules] at hsuits hrewrites
          exact (failsOnly_readRules 0 hsuits hrewrites).bind fun rules _ => failsOnly_ok _
      | _ => exact failsOnly_ok _

theorem failsOnly_ofValue (h : Suits P document)
    (hid : ∀ rule, .map rule ∈ storedRules document → (fieldOr rule "id" .null).isKey = false →
      P (.unhashable (fieldOr rule "id" .null).kind))
    (hrewrites : ∀ rule v, .map rule ∈ storedRules document → HasBadRewrites rule v →
      P (.notIterable v.fullKind)) :
    FailsOnly (Settings.Fault.Within P) (ofValue document) := by
  have hlayout : FailsOnly (Settings.Fault.Within P)
      ((checkLayout document).mapError documentFault) :=
    (failsOnly_checkLayout h hid).mapError fun fault hfault => by
      cases fault with
      | violation _ => trivial
      | misuse m => exact hfault
  cases document with
  | null =>
      have hread : ofValue .null = ofEntries [] := rfl
      exact hread ▸ failsOnly_ofEntries suits_ofFields_nil fun _ _ hrule => by cases hrule
  | map entries =>
      exact hlayout.bind fun _ _ => failsOnly_ofEntries h hrewrites
  | _ => exact failsOnly_error trivial

/-- A document with text keys is read as a rule set or refused, or something in it stops the
reading. -/
theorem ofValue_answers (h : document.HasTextKeys) :
    (∃ s, ofValue document = .ok s) ∨ (∃ r, ofValue document = .error (.refusal r)) ∨
      ∃ m, ofValue document = .error (.misuse m) ∧ Stops document m := by
  have hfails := failsOnly_ofValue (P := Stops document) ⟨h, .digits⟩ (fun _ => .id)
    fun _ _ => .rewrites
  cases hread : ofValue document with
  | ok s => exact .inl ⟨s, rfl⟩
  | error fault =>
      have hwithin := hfails fault hread
      cases fault with
      | refusal r => exact .inr (.inl ⟨r, rfl⟩)
      | misuse m => exact .inr (.inr ⟨m, rfl, hwithin⟩)
      | noValue why => cases hwithin
      | notText => cases hwithin

/-- Rewrites that are a number stop the reading. -/
theorem ofValue_answers_number :
    let recipe := Value.ofFields [("customTransforms", .int 5)]
    let document := Value.ofFields [("rules", .list [Value.ofFields [
      ("id", .text "a"), ("name", .text "A"), ("enabled", .bool true), ("priority", .int 0),
      ("direction", .text "bidirectional"), ("options", Value.ofFields []),
      ("folderTransforms", recipe)]])]
    document.HasTextKeys ∧ ∃ m, ofValue document = .error (.misuse m) ∧ Stops document m := by
  intro recipe document
  have hkeys : document.HasTextKeys := by
    refine .map (List.forall_mem_singleton.2 (.list (List.forall_mem_singleton.2 (.map ?_))))
    simp only [List.forall_mem_cons, List.not_mem_nil, false_implies, implies_true, and_true]
    refine ⟨.text _, .text _, .other nofun nofun, .other nofun nofun, .text _, .map ?_, .map ?_⟩
    · simp
    · exact List.forall_mem_singleton.2 (.other nofun nofun)
  have hstops : (match ofValue document with
      | .error (.misuse _) => true
      | _ => false) = true := by decide +kernel
  refine ⟨hkeys, ?_⟩
  rcases ofValue_answers hkeys with ⟨s, hread⟩ | ⟨r, hread⟩ | hmisuse
  · simp [hread] at hstops
  · simp [hread] at hstops
  · exact hmisuse

/-- A list or mapping as an id stops the reading, if the rules before it may stand where they do. -/
theorem ofValue_eq_of_id {before after : List Value}
    (hrules : fieldOr entries "rules" (.list []) = .list (before ++ .map rule :: after))
    (hbefore : checkRules 0 [] before = .ok ())
    (hid : (fieldOr rule "id" .null).isKey = false) :
    ofValue (.map entries) =
      .error (.misuse (.unhashable (fieldOr rule "id" .null).kind)) := by
  obtain ⟨index, seen, hcheck⟩ := exists_checkRules_append hbefore
  have hlayout : checkLayout (.map entries) =
      .error (.misuse (.unhashable (fieldOr rule "id" .null).kind)) := by
    rw [checkLayout, hrules]
    dsimp only
    rw [hcheck, checkRules, checkRule, Value.asKey, hid]
    rfl
  rw [ofValue, hlayout]
  rfl

/-- A list cannot tell a rule from the others. -/
theorem ofValue_stops_at_list_id :
    let document := Value.ofFields [("rules", .list [Value.ofFields [("id", .list [])]])]
    document.HasTextKeys ∧ ofValue document = .error (.misuse (.unhashable "list")) := by
  intro document
  refine ⟨?_, rfl⟩
  refine .map (List.forall_mem_singleton.2 (.list (List.forall_mem_singleton.2 (.map ?_))))
  exact List.forall_mem_singleton.2 (.list (by simp))

end RuleSet

end FolderTag
