import FolderTag.Log.Registry
import FolderTag.Proofs.Document.Display

/-! # Log lines

A text that is written into a log line as it is holds no white space, and every other value is
printable. So no value can end a line and begin another one. -/

namespace FolderTag.Log

open FolderTag.Document FolderTag.Text

/-! ## Values in a line -/

theorem isOneLine_of_needsQuotes {s : List Char} (h : needsQuotes s = false) : IsOneLine s := by
  rw [needsQuotes, Bool.or_eq_false_iff] at h
  exact isOneLine_of_forall_isBlank fun c hc => by simpa using List.any_eq_false.1 h.2 c hc

theorem valueText_of_text? {v : Value} (h : v.text? = none) : valueText v = v.shown := by
  cases v with
  | text s => cases h
  | _ => rfl

/-- Whatever a value is, it is written on one line. -/
theorem isOneLine_valueText (v : Value) : IsOneLine (valueText v) := by
  have hshown : v.text? = none → IsOneLine (valueText v) := fun h => by
    rw [valueText_of_text? h]
    exact (Value.isPrintable_shown h).isOneLine
  cases v with
  | text s =>
      rw [valueText]
      split_ifs with hquotes
      · exact (isPrintable_quoted _).isOneLine
      · exact isOneLine_of_needsQuotes (by simpa using hquotes)
  | _ => exact hshown rfl

/-! ## Lines -/

theorem isOneLine_contextText_iff (context : Context) :
    IsOneLine (contextText context) ↔ ∀ f ∈ context, IsOneLine f.1.toList := by
  have hequals : '=' ∉ lineBreaks := by decide
  have hfield : ∀ f : String × Value,
      IsOneLine (f.1.toList ++ '=' :: valueText f.2) ↔ IsOneLine f.1.toList := by
    simp [hequals, isOneLine_valueText]
  rw [contextText, ← joinWith, isOneLine_joinWith_iff (by decide), List.forall_mem_map]
  exact forall₂_congr fun f _ => hfield f

/-- A log line is broken only by its message or a name, by no value. -/
theorem isOneLine_lineText_iff (message : String) (context : Context) :
    IsOneLine (lineText message context).toList ↔
      IsOneLine message.toList ∧ ∀ f ∈ context, IsOneLine f.1.toList := by
  have hbar : IsOneLine " | ".toList := by decide
  rw [lineText]
  split_ifs with hempty
  · simp [List.isEmpty_iff.1 hempty]
  · rw [String.toList_ofList, isOneLine_append_iff, isOneLine_append_iff, isOneLine_contextText_iff,
      and_iff_left hbar]

/-! ## Names that hold for a while -/

section Names

variable {p : String → Prop}

namespace Context

theorem forall_put_iff (key : String) (value : Value) (context : Context) :
    (∀ f ∈ put key value context, p f.1) ↔ p key ∧ ∀ f ∈ context, p f.1 := by
  induction context with
  | nil => simp [put]
  | cons f context ih =>
      rw [put]
      split_ifs with hkey
      · rw [List.forall_mem_cons, List.forall_mem_cons, hkey]
        exact and_self_left.symm
      · rw [List.forall_mem_cons, List.forall_mem_cons, ih]
        exact and_left_comm

theorem forall_extend_iff (outer inner : Context) :
    (∀ f ∈ outer.extend inner, p f.1) ↔ (∀ f ∈ outer, p f.1) ∧ ∀ f ∈ inner, p f.1 := by
  rw [extend]
  induction inner generalizing outer with
  | nil => simp
  | cons f inner ih =>
      rw [List.foldl_cons, ih, forall_put_iff, List.forall_mem_cons]
      exact and_assoc.trans and_left_comm

end Context

theorem Registry.forall_context_iff (r : Registry) :
    (∀ f ∈ r.context, p f.1) ↔ ∀ frame ∈ r.frames, ∀ f ∈ frame, p f.1 := by
  have hfold : ∀ (frames : List Context) (outer : Context),
      (∀ f ∈ frames.foldl Context.extend outer, p f.1) ↔
        (∀ f ∈ outer, p f.1) ∧ ∀ frame ∈ frames, ∀ f ∈ frame, p f.1 := by
    intro frames
    induction frames with
    | nil => simp
    | cons frame frames ih =>
        intro outer
        rw [List.foldl_cons, ih, Context.forall_extend_iff, List.forall_mem_cons, and_assoc]
  simpa [Registry.context] using hfold r.frames []

end Names

/-! ## Entries -/

theorem Registry.of_write {r : Registry} {name message : String} {level : Level}
    {values : Context} {e : Entry} (h : r.write name level message values = .ok (some e)) :
    e = { level, message, context := r.context.extend values } := by
  rw [Registry.write] at h
  split_ifs at h
  · cases h
    rfl
  · cases h

end FolderTag.Log
