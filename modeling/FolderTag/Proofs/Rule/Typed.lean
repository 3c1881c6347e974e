import FolderTag.Proofs.Document.Json.Form
import FolderTag.Proofs.Rule.Stored

/-! # Rules whose fields are of their kinds

A stored rule may hold anything in most of its fields. One that holds texts, truth values and a
whole number where they belong has a stored form that JSON can hold. -/

namespace FolderTag

open FolderTag.Document FolderTag.Document.Json FolderTag.Rule FolderTag.Transform

/-! ## Kinds -/

namespace Document.Value

variable {v : Value}

def IsText (v : Value) : Prop := ∃ s, v = .text s

def IsBool (v : Value) : Prop := ∃ b, v = .bool b

theorem IsText.isJson (h : v.IsText) : IsJson v := by
  obtain ⟨s, rfl⟩ := h
  exact .text s

theorem IsBool.isJson (h : v.IsBool) : IsJson v := by
  obtain ⟨b, rfl⟩ := h
  exact .bool b

theorem IsBool.ne_null (h : v.IsBool) : v ≠ .null := by
  obtain ⟨b, rfl⟩ := h
  simp

theorem isJson_of_null_or (h : v = .null ∨ IsJson v) : IsJson v := by
  rcases h with rfl | h
  · exact .null
  · exact h

end Document.Value

/-! ## Fields -/

namespace Rule

variable {v : Value} {slots : List (String × Option Value)}

theorem isJson_ofFields_setFields (hnames : (slots.map Prod.fst).Nodup)
    (h : ∀ slot ∈ slots, ∀ v ∈ slot.2, IsJson v) : IsJson (Value.ofFields (setFields slots)) := by
  refine .map (hnames.sublist (map_fst_setFields_sublist slots)) ?_
  intro f hf
  exact h _ (mem_setFields_iff.1 hf) _ rfl

theorem isJson_of_mem_present? (h : IsJson v) : ∀ w ∈ present? v, IsJson w := by
  intro w hw
  rwa [eq_of_mem_present? hw]

theorem isJson_of_mem_map {α : Type} {f : α → Value} {a? : Option α} (h : ∀ a ∈ a?, IsJson (f a)) :
    ∀ v ∈ a?.map f, IsJson v := by
  intro v hv
  obtain ⟨a, ha, rfl⟩ := Option.map_eq_some_iff.1 hv
  exact h a ha

theorem isJson_of_mem_choice {α : Type} [Choice α] (a? : Option α) :
    ∀ v ∈ a?.map Choice.value, IsJson v :=
  isJson_of_mem_map fun _ _ => .text _

end Rule

/-! ## Recipes -/

namespace Transform

/-- A rewrite of texts by texts. -/
structure Rewrite.IsTyped (r : Rewrite) : Prop where
  pattern : r.pattern.IsText
  replacement : r.replacement.IsText
  flags : r.flags = .null ∨ r.flags.IsText

/-- The rewrites of a recipe are of texts. Its other fields are of their kinds in any recipe. -/
def Recipe.IsTyped (r : Recipe) : Prop := ∀ rewrite ∈ r.rewrites, rewrite.IsTyped

theorem Rewrite.IsTyped.isJson {r : Rewrite} (h : r.IsTyped) : IsJson r.toValue := by
  have hflags := Value.isJson_of_null_or (h.flags.imp_right Value.IsText.isJson)
  rw [Rewrite.toValue_eq]
  refine isJson_ofFields_setFields r.nodup_slots ?_
  simp only [slots, List.forall_mem_cons, List.not_mem_nil, false_implies, implies_true, and_true,
    Option.mem_some_iff, forall_eq']
  exact ⟨h.pattern.isJson, h.replacement.isJson, isJson_of_mem_present? hflags⟩

theorem Recipe.IsTyped.isJson {r : Recipe} (h : r.IsTyped) : IsJson r.toValue := by
  have hrewrites : IsJson (.list (r.rewrites.map Rewrite.toValue)) := by
    refine .list fun v hv => ?_
    obtain ⟨rewrite, hrewrite, rfl⟩ := List.mem_map.1 hv
    exact (h rewrite hrewrite).isJson
  rw [Recipe.toValue_eq]
  refine isJson_ofFields_setFields r.nodup_slots ?_
  simp only [slots, List.forall_mem_cons, List.not_mem_nil, false_implies, implies_true, and_true]
  refine ⟨isJson_of_mem_choice _, isJson_of_mem_choice _, isJson_of_mem_choice _, ?_⟩
  intro v hv
  split_ifs at hv
  · cases hv
  · cases hv
    exact hrewrites

end Transform

/-! ## Options and rules -/

namespace Rule

/-- The switches of options are truth values. Those without a default may be nothing. -/
structure Options.IsTyped (o : Options) : Prop where
  createFolders : o.createFolders.IsBool
  addTags : o.addTags.IsBool
  removeOrphanedTags : o.removeOrphanedTags.IsBool
  syncOnFileCreate : o.syncOnFileCreate.IsBool
  syncOnFileMove : o.syncOnFileMove.IsBool
  syncOnFileRename : o.syncOnFileRename.IsBool
  removeSourceTag : o.removeSourceTag = .null ∨ o.removeSourceTag.IsBool
  keepDestinationTag : o.keepDestinationTag = .null ∨ o.keepDestinationTag.IsBool
  keepRelationTags : o.keepRelationTags = .null ∨ o.keepRelationTags.IsBool
  handleFolderNote : o.handleFolderNote = .null ∨ o.handleFolderNote.IsBool
  moveAttachments : o.moveAttachments = .null ∨ o.moveAttachments.IsBool

theorem Options.IsTyped.hasSwitches {o : Options} (h : o.IsTyped) : o.HasSwitches where
  createFolders := h.createFolders.ne_null
  addTags := h.addTags.ne_null
  removeOrphanedTags := h.removeOrphanedTags.ne_null
  syncOnFileCreate := h.syncOnFileCreate.ne_null
  syncOnFileMove := h.syncOnFileMove.ne_null
  syncOnFileRename := h.syncOnFileRename.ne_null

theorem Options.IsTyped.isJson {o : Options} (h : o.IsTyped) : IsJson o.toValue := by
  have hset : ∀ {v : Value}, v.IsBool → ∀ w ∈ present? v, IsJson w := fun hv =>
    isJson_of_mem_present? hv.isJson
  have hopen : ∀ {v : Value}, v = .null ∨ v.IsBool → ∀ w ∈ present? v, IsJson w := fun hv =>
    isJson_of_mem_present? (Value.isJson_of_null_or (hv.imp_right Value.IsBool.isJson))
  rw [Options.toValue_eq]
  refine isJson_ofFields_setFields o.nodup_slots ?_
  simp only [slots, List.forall_mem_cons, List.not_mem_nil, false_implies, implies_true, and_true]
  exact ⟨hset h.createFolders, hset h.addTags, hset h.removeOrphanedTags, hset h.syncOnFileCreate,
    hset h.syncOnFileMove, hset h.syncOnFileRename, isJson_of_mem_choice _, isJson_of_mem_choice _,
    hopen h.removeSourceTag, hopen h.keepDestinationTag, hopen h.keepRelationTags,
    hopen h.handleFolderNote, hopen h.moveAttachments⟩

/-- Every field of a rule is of its kind. -/
structure IsTyped (r : Rule) : Prop where
  id : r.id.IsText
  name : r.name.IsText
  enabled : r.enabled.IsBool
  priority : ∃ n, r.priority.whole? = some n
  direction : ∃ d, r.direction = some d
  description : r.description = .null ∨ r.description.IsText
  recipes : ∀ side, ∀ recipe ∈ (r.endpoint side).recipe, recipe.IsTyped
  options : r.options.IsTyped

/-- The priority of a rule has no more digits than can be written. -/
def HasShortPriority (r : Rule) : Prop :=
  ∀ n, r.priority = .int n → (Nat.toDigits 10 n.natAbs).length ≤ Number.digitLimit

theorem isJson_priority {r : Rule} (h : r.IsTyped) (hshort : r.HasShortPriority) :
    IsJson r.priority := by
  obtain ⟨n, hn⟩ := h.priority
  cases hpriority : r.priority with
  | bool b => exact .bool b
  | int m => exact .int (hshort m hpriority)
  | _ => simp [hpriority, Value.whole?] at hn

/-- The stored form of a rule is one that JSON can hold. -/
theorem IsTyped.isJson {r : Rule} {v : Value} (h : r.IsTyped) (hshort : r.HasShortPriority)
    (hv : r.toValue = .ok v) : IsJson v := by
  obtain ⟨d, hd⟩ := h.direction
  rw [toValue_eq hd, Except.ok.injEq] at hv
  subst hv
  have hdescription := Value.isJson_of_null_or (h.description.imp_right Value.IsText.isJson)
  refine isJson_ofFields_setFields (r.nodup_slots d) ?_
  simp only [slots, List.forall_mem_cons, List.not_mem_nil, false_implies, implies_true, and_true,
    Option.mem_some_iff, forall_eq']
  exact ⟨h.id.isJson, h.name.isJson, h.enabled.isJson, isJson_priority h hshort, .text _,
    isJson_of_mem_present? hdescription, isJson_of_mem_map fun _ _ => .text _,
    isJson_of_mem_map fun _ _ => .text _, isJson_of_mem_map fun _ _ => .text _,
    isJson_of_mem_map fun _ _ => .text _,
    isJson_of_mem_map fun recipe hr => (h.recipes .folder recipe hr).isJson,
    isJson_of_mem_map fun recipe hr => (h.recipes .tag recipe hr).isJson, h.options.isJson⟩

/-- A rule whose stored form can be written has a priority of few digits. -/
theorem hasShortPriority_of_obstacle? {r : Rule} {v : Value} (hv : r.toValue = .ok v)
    (hnone : obstacle? v = none) : r.HasShortPriority := by
  intro n hn
  cases hd : r.direction with
  | none => simp [toValue, hd, directionName] at hv
  | some d =>
      rw [toValue_eq hd, Except.ok.injEq] at hv
      subst hv
      have hmem : ("priority", r.priority) ∈ setFields (r.slots d) :=
        mem_setFields_iff.2 (by simp [slots])
      have hpriority := obstacle?_ofFields_eq_none_iff.1 hnone _ hmem
      rw [hn] at hpriority
      exact obstacle?_int_eq_none_iff.1 hpriority

end Rule

end FolderTag
