import FolderTag.Proofs.Document.Fields
import FolderTag.Proofs.Document.Json.Scalar
import FolderTag.Proofs.Document.TextKeys

/-! # What JSON has a form for

Values without decimal numbers, days and moments, whose whole numbers are short enough, can be
written, and their forms say where they begin and hold no carriage returns. -/

namespace FolderTag.Document.Json

/-- A value that JSON has a form for of its own. Whole numbers are short enough to be read, and
keys are texts that differ from each other. -/
inductive IsJson : Value → Prop
  | null : IsJson .null
  | bool (b : Bool) : IsJson (.bool b)
  | int {n : Int} (h : (Nat.toDigits 10 n.natAbs).length ≤ Number.digitLimit) : IsJson (.int n)
  | text (s : String) : IsJson (.text s)
  | list {items : List Value} (h : ∀ v ∈ items, IsJson v) : IsJson (.list items)
  | map {fields : List (String × Value)} (hnames : (fields.map Prod.fst).Nodup)
      (h : ∀ f ∈ fields, IsJson f.2) : IsJson (Value.ofFields fields)

theorem IsJson.exists_fields {entries : Entries} (h : IsJson (.map entries)) :
    ∃ fields, entries = Value.entriesOf fields ∧ (fields.map Prod.fst).Nodup := by
  generalize hv : Value.map entries = v at h
  cases h with
  | @map fields hnames _ => exact ⟨fields, Value.map.inj hv, hnames⟩
  | _ => cases hv

variable {level : Nat} {v : Value} {key scalar : Value → Option Obstacle}

/-! ## First characters -/

/-- A whole number begins with a minus or a digit. -/
theorem exists_intText_eq_cons (n : Int) :
    ∃ c cs, intText n = c :: cs ∧ (c = '-' ∧ n < 0 ∨ c.isDigit = true) := by
  obtain ⟨d, ds, hdigits, hdigit⟩ := exists_toDigits_eq_cons n.natAbs
  by_cases hn : n < 0
  · exact ⟨'-', d :: ds, by simp [intText, hn, hdigits], .inl ⟨rfl, hn⟩⟩
  · exact ⟨d, ds, by simp [intText, hn, hdigits], .inr hdigit⟩

/-- The first character of a form begins a value. -/
theorem exists_form_eq_cons (h : IsJson v) (level : Nat) :
    ∃ c cs, form level v = c :: cs ∧ Place.isSpace c = false ∧ c ≠ ']' ∧ c ≠ '\ufeff' := by
  cases h with
  | null => exact ⟨_, _, rfl, by decide, by decide, by decide⟩
  | bool b => cases b <;> exact ⟨_, _, rfl, by decide, by decide, by decide⟩
  | text s => exact ⟨_, _, rfl, by decide, by decide, by decide⟩
  | @int n _ =>
      obtain ⟨c, cs, hform, hc⟩ := exists_intText_eq_cons n
      refine ⟨c, cs, hform, ?_, ?_, ?_⟩
      · rcases hc with ⟨rfl, -⟩ | hdigit
        · rfl
        · by_contra hspace
          have : c = ' ' ∨ c = '\t' ∨ c = '\n' ∨ c = '\r' := by
            rw [Bool.not_eq_false, Place.isSpace] at hspace
            simpa [or_assoc] using hspace
          rcases this with rfl | rfl | rfl | rfl <;> simp at hdigit
      · rintro rfl
        simp at hc
      · rintro rfl
        simp at hc
  | @list items h =>
      cases items with
      | nil => exact ⟨_, _, rfl, by decide, by decide, by decide⟩
      | cons v vs => exact ⟨_, _, rfl, by decide, by decide, by decide⟩
  | @map fields _ h =>
      cases fields with
      | nil => exact ⟨_, _, rfl, by decide, by decide, by decide⟩
      | cons f fields => exact ⟨_, _, rfl, by decide, by decide, by decide⟩

/-! ## Carriage returns -/

theorem notMem_newLine : '\r' ∉ newLine level := by simp [newLine]

theorem notMem_escapedChar (c : Char) : '\r' ∉ escapedChar c := by
  have hhex : ∀ n < 32, '\r' ∉ Text.hexDigits 4 n := by decide
  rw [escapedChar]
  split_ifs with hshort hn hr ht hf hb hcontrol
  · rcases hshort with rfl | rfl <;> decide
  · decide
  · decide
  · decide
  · decide
  · decide
  · simpa using hhex _ hcontrol
  · simpa using Ne.symm hr

theorem notMem_textForm (s : String) : '\r' ∉ textForm s := by
  simp [textForm, notMem_escapedChar]

theorem notMem_intText (n : Int) : '\r' ∉ intText n := by
  intro h
  rcases List.mem_append.1 h with h | h
  · split_ifs at h <;> simp at h
  · have := Nat.isDigit_of_mem_toDigits (by decide) (by decide) h
    simp at this

theorem notMem_itemsForm {items : List Value} (h : ∀ v ∈ items, '\r' ∉ form level v) :
    '\r' ∉ itemsForm level items := by
  induction items with
  | nil => simp [itemsForm]
  | cons v items ih =>
      have hv := h v (List.mem_cons_self ..)
      have hitems := ih fun w hw => h w (List.mem_cons_of_mem v hw)
      simp [itemsForm, notMem_newLine, hv, hitems]

theorem notMem_entriesForm {fields : List (String × Value)}
    (h : ∀ f ∈ fields, '\r' ∉ form level f.2) :
    '\r' ∉ entriesForm level (Value.entriesOf fields) := by
  induction fields with
  | nil => simp [entriesForm]
  | cons f fields ih =>
      have hf := h f (List.mem_cons_self ..)
      have hfields := ih fun g hg => h g (List.mem_cons_of_mem f hg)
      simp [entriesForm, keyForm, notMem_newLine, notMem_textForm, hf, hfields]

/-- A carriage return in a text is written with an escape. -/
theorem notMem_form (h : IsJson v) : '\r' ∉ form level v := by
  induction h generalizing level with
  | null => simp [form, scalarForm]
  | bool b => cases b <;> simp [form, scalarForm]
  | @int n _ => exact notMem_intText n
  | text s => exact notMem_textForm s
  | @list items _ ih =>
      cases items with
      | nil => simp [form]
      | cons v vs =>
          have hv : '\r' ∉ form (level + 1) v := ih v (List.mem_cons_self ..)
          have hvs : '\r' ∉ itemsForm (level + 1) vs :=
            notMem_itemsForm fun w hw => ih w (List.mem_cons_of_mem v hw)
          simp [form, notMem_newLine, hv, hvs]
  | @map fields _ _ ih =>
      cases fields with
      | nil => simp [Value.ofFields, form]
      | cons f fields =>
          have hf : '\r' ∉ form (level + 1) f.2 := ih f (List.mem_cons_self ..)
          have hfields : '\r' ∉ entriesForm (level + 1) (Value.entriesOf fields) :=
            notMem_entriesForm fun g hg => ih g (List.mem_cons_of_mem f hg)
          simp [Value.ofFields_eq, form, keyForm, notMem_newLine, notMem_textForm, hf, hfields]

theorem notMem_write (h : IsJson v) : '\r' ∉ write v := by
  simp [write, notMem_form h]

/-! ## Obstacles -/

theorem obstacle?_list_eq_none_iff {items : List Value} :
    obstacle? (.list items) = none ↔ ∀ v ∈ items, obstacle? v = none :=
  itemObstacle?_eq_none_iff

theorem obstacle?_ofFields_eq_none_iff {fields : List (String × Value)} :
    obstacle? (Value.ofFields fields) = none ↔ ∀ f ∈ fields, obstacle? f.2 = none :=
  entryObstacle?_eq_none_iff fun _ => rfl

theorem obstacle?_int_eq_none_iff {n : Int} :
    obstacle? (.int n) = none ↔ (Nat.toDigits 10 n.natAbs).length ≤ Number.digitLimit := by
  rw [← Nat.not_lt]
  exact ite_eq_right_iff.trans (by simp)

/-- Nothing keeps a value that JSON has a form for from being written. -/
theorem obstacle?_eq_none (h : IsJson v) : obstacle? v = none := by
  induction h with
  | null => rfl
  | bool b => rfl
  | int hlimit => exact obstacle?_int_eq_none_iff.2 hlimit
  | text s => rfl
  | list _ ih => exact obstacle?_list_eq_none_iff.2 ih
  | map _ _ ih => exact obstacle?_ofFields_eq_none_iff.2 ih

end FolderTag.Document.Json
