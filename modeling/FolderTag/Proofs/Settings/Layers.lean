import FolderTag.Proofs.Document.Names
import FolderTag.Proofs.Outcome
import FolderTag.Settings.Layers

/-! # Layers over each other

What a mapping says under a path after another one was laid over it: what the upper one says if it
says something, and what the lower one says if nothing of the upper one is in the way. -/

namespace FolderTag.Settings

open FolderTag.Document

variable {base entries : Entries} {name : String} {v w : Value} {ks : List String}

/-! ## One value over another -/

theorem mergeValue_of_ne_map (below : Option Value) (h : ∀ entries, v ≠ .map entries) :
    mergeValue below v = v := by
  cases v with
  | map entries => exact absurd rfl (h entries)
  | _ => rfl

theorem mergeValue_map (base entries : Entries) :
    mergeValue (some (.map base)) (.map entries) = .map (mergeEntries base entries) := rfl

theorem mergeValue_of_below_ne_map {below : Option Value} (v : Value)
    (h : ∀ base, below ≠ some (.map base)) : mergeValue below v = v := by
  cases v with
  | map entries =>
      cases below with
      | none => rfl
      | some b =>
          cases b with
          | map base => exact absurd rfl (h base)
          | _ => rfl
  | _ => rfl

/-- A mapping stays a mapping whatever it is laid over. -/
theorem exists_mergeValue_map (below : Option Value) (entries : Entries) :
    ∃ merged, mergeValue below (.map entries) = .map merged := by
  by_cases h : ∃ base, below = some (.map base)
  · obtain ⟨base, rfl⟩ := h
    exact ⟨_, mergeValue_map base entries⟩
  · exact ⟨entries, mergeValue_of_below_ne_map _ fun base hbase => h ⟨base, hbase⟩⟩

theorem field?_mergeEntries (base : Entries) (h : (Value.names entries).Nodup) :
    Value.field? name (mergeEntries base entries) =
      match Value.field? name entries with
      | some v => some (mergeValue (Value.field? name base) v)
      | none => Value.field? name base := by
  induction entries generalizing base with
  | nil => rfl
  | cons e entries ih =>
      obtain ⟨k, v⟩ := e
      by_cases hk : k = .text name
      · subst hk
        have hnotMem : name ∉ Value.names entries := (List.nodup_cons.1 h).1
        rw [mergeEntries, ih _ (List.nodup_cons.1 h).2, Value.field?_cons_self,
          Value.field?_eq_none_of_notMem hnotMem, Value.field?_put_self]
        rfl
      · rw [mergeEntries, ih _ (h.sublist (Value.names_sublist_cons _ _)),
          Value.field?_cons_of_ne v entries hk, Value.field?_put_of_ne _ base hk]

/-! ## Paths -/

/-- Whether something that is no mapping stands above the end of a path. -/
def isBlocked : List String → Value → Bool
  | [], _ => false
  | k :: ks, .map entries => (Value.field? k entries).any (isBlocked ks)
  | _ :: _, _ => true

theorem valueAt?_cons_map (k : String) (ks : List String) (entries : Entries) :
    valueAt? (k :: ks) (.map entries) = (Value.field? k entries).bind (valueAt? ks) := rfl

theorem valueAt?_cons_of_ne_map (k : String) (ks : List String)
    (h : ∀ entries, v ≠ .map entries) : valueAt? (k :: ks) v = none := by
  cases v with
  | map entries => exact absurd rfl (h entries)
  | _ => rfl

theorem isBlocked_cons_of_ne_map (k : String) (ks : List String)
    (h : ∀ entries, v ≠ .map entries) : isBlocked (k :: ks) v = true := by
  cases v with
  | map entries => exact absurd rfl (h entries)
  | _ => rfl

/-- What a value says under a path when it lies over another one. -/
theorem valueAt?_mergeValue (ks : List String) (below : Option Value) (h : v.HasDistinctNames) :
    valueAt? ks (mergeValue below v) =
      match valueAt? ks v with
      | some w => some (mergeValue (below.bind (valueAt? ks)) w)
      | none => if isBlocked ks v then none else below.bind (valueAt? ks) := by
  induction ks generalizing below v with
  | nil => cases below <;> rfl
  | cons k ks ih =>
      by_cases hmap : ∃ entries, v = .map entries
      · obtain ⟨entries, rfl⟩ := hmap
        by_cases hbelow : ∃ base, below = some (.map base)
        · obtain ⟨base, rfl⟩ := hbelow
          rw [mergeValue_map, valueAt?_cons_map, field?_mergeEntries base h.nodup,
            valueAt?_cons_map, isBlocked, Option.bind_some, valueAt?_cons_map]
          cases hfield : Value.field? k entries with
          | none => rfl
          | some w =>
              have hw := h.of_mem _ (Value.mem_of_field? hfield)
              exact ih (Value.field? k base) hw
        · rw [not_exists] at hbelow
          have hnone : below.bind (valueAt? (k :: ks)) = none := by
            cases below with
            | none => rfl
            | some b =>
                exact valueAt?_cons_of_ne_map k ks fun base hb => hbelow base (congrArg some hb)
          rw [mergeValue_of_below_ne_map _ hbelow, hnone]
          cases valueAt? (k :: ks) (.map entries) with
          | none => simp
          | some w =>
              dsimp only
              rw [mergeValue_of_below_ne_map w (by simp)]
      · rw [not_exists] at hmap
        rw [mergeValue_of_ne_map below hmap, valueAt?_cons_of_ne_map k ks hmap,
          isBlocked_cons_of_ne_map k ks hmap]
        rfl

/-! ## One layer over others -/

namespace Layers

variable {l : Layers} {sources : List Source} {s : Source} {key : String} {merged : Entries}

theorem mergeSources_append (l : Layers) (lower upper : List Source) (base : Entries) :
    l.mergeSources (lower ++ upper) base =
      l.mergeSources lower base >>= l.mergeSources upper := by
  induction lower generalizing base with
  | nil => rfl
  | cons s lower ih =>
      rw [List.cons_append, mergeSources, mergeSources]
      split
      · exact ih base
      · exact ih _
      · rfl

/-- What the last of some sources says is laid over what the others say. -/
theorem mergeSources_concat_iff :
    l.mergeSources (sources ++ [s]) [] = .ok merged ↔
      ∃ base, l.mergeSources sources [] = .ok base ∧
        (l.layer s = none ∧ merged = base ∨
          ∃ entries, l.layer s = some (.map entries) ∧ merged = mergeEntries base entries) := by
  rw [mergeSources_append, bind_eq_ok_iff]
  refine exists_congr fun base => and_congr_right fun _ => ?_
  cases hlayer : l.layer s with
  | none => simp [mergeSources, hlayer, eq_comm]
  | some v =>
      cases v with
      | map entries => simp [mergeSources, hlayer, eq_comm]
      | _ => simp [mergeSources, hlayer]

/-- What the sources say about a key. Of those that say something the last counts. -/
def found? (l : Layers) (key : String) (sources : List Source) : Option Value :=
  sources.reverse.findSome? (l.sayingAt? key)

theorem get?_eq_found? (l : Layers) (key : String) : l.get? key = l.found? key Source.all := rfl

theorem found?_append (l : Layers) (key : String) (lower upper : List Source) :
    l.found? key (lower ++ upper) = (l.found? key upper).or (l.found? key lower) := by
  rw [found?, List.reverse_append, List.findSome?_append, found?, found?]

theorem found?_concat (l : Layers) (key : String) (sources : List Source) (s : Source) :
    l.found? key (sources ++ [s]) = (l.sayingAt? key s).or (l.found? key sources) := by
  rw [found?_append]
  simp [found?]

theorem found?_eq_none_iff :
    l.found? key sources = none ↔ ∀ u ∈ sources, l.sayingAt? key u = none := by
  simp [found?, List.findSome?_eq_none_iff]

theorem sayingAt?_eq_some_iff :
    l.sayingAt? key s = some v ↔
      ∃ w, l.layer s = some w ∧ valueAt? (keyParts key) w = some v ∧ v ≠ .null := by
  rw [sayingAt?, Option.bind_eq_some_iff]
  refine exists_congr fun w => and_congr_right fun _ => ?_
  rw [Option.bind_eq_some_iff]
  constructor
  · rintro ⟨x, hx, hsaid⟩
    cases x <;> cases hsaid <;> exact ⟨hx, by simp⟩
  · rintro ⟨hv, hne⟩
    refine ⟨v, hv, ?_⟩
    cases v with
    | null => exact absurd rfl hne
    | _ => rfl

/-! ## The merged view and what is found -/

/-- Nothing that a source says hides what lies below it under a key: nothing is in the way, and
nothing is said to be nothing. -/
def IsOpen (l : Layers) (key : String) (s : Source) : Prop :=
  ∀ v, l.layer s = some v →
    isBlocked (keyParts key) v = false ∧ valueAt? (keyParts key) v ≠ some .null

/-- What is found under a key is of a sort if what the merged view holds there is. -/
def Agrees (l : Layers) (key : String) (P : Value → Prop) (sources : List Source) : Prop :=
  ∀ merged, l.mergeSources sources [] = .ok merged →
    (∀ v, valueAt? (keyParts key) (.map merged) = some v → P v) →
    ∀ v, l.found? key sources = some v → P v

section Agreement

variable {P : Value → Prop} (hP : ∀ entries, ¬ P (.map entries))
  (hnames : ∀ v, l.layer s = some v → v.HasDistinctNames)

include hP

/-- What a source says and the merged view holds is of the same sort. -/
theorem of_valueAt?_merged (h : (Value.map entries).HasDistinctNames)
    (hmerged : ∀ v, valueAt? ks (.map (mergeEntries base entries)) = some v → P v)
    (hv : valueAt? ks (.map entries) = some v) : P v := by
  have hlaid := valueAt?_mergeValue ks (some (.map base)) h
  rw [hv, mergeValue_map] at hlaid
  have hkept := hmerged _ hlaid
  by_cases hmap : ∃ inner, v = .map inner
  · obtain ⟨inner, rfl⟩ := hmap
    obtain ⟨whole, hwhole⟩ := exists_mergeValue_map ((some (.map base)).bind (valueAt? ks)) inner
    exact absurd (hwhole ▸ hkept) (hP whole)
  · rwa [mergeValue_of_ne_map _ fun inner hinner => hmap ⟨inner, hinner⟩] at hkept

include hnames

/-- A source may say anything if what is found below it is of the sort. -/
theorem agrees_concat_of_found (hbelow : ∀ v, l.found? key sources = some v → P v) :
    l.Agrees key P (sources ++ [s]) := by
  intro merged hmerged hview v hv
  rw [found?_concat, Option.or_eq_some_iff] at hv
  rcases hv with hsaid | ⟨-, hfound⟩
  · obtain ⟨w, hw, hvalue, -⟩ := sayingAt?_eq_some_iff.1 hsaid
    obtain ⟨base, -, hnone | ⟨entries, hlayer, rfl⟩⟩ := mergeSources_concat_iff.1 hmerged
    · rw [hnone.1] at hw
      cases hw
    · rw [hlayer, Option.some.injEq] at hw
      subst hw
      exact of_valueAt?_merged hP (hnames _ hlayer) hview hvalue
  · exact hbelow v hfound

/-- A source that hides nothing leaves the agreement of those below it as it is. -/
theorem agrees_concat_of_isOpen (hopen : l.IsOpen key s) (h : l.Agrees key P sources) :
    l.Agrees key P (sources ++ [s]) := by
  intro merged hmerged hview v hv
  rw [found?_concat, Option.or_eq_some_iff] at hv
  obtain ⟨base, hbase, ⟨hnone, rfl⟩ | ⟨entries, hlayer, rfl⟩⟩ := mergeSources_concat_iff.1 hmerged
  · have hsilent : l.sayingAt? key s = none := by simp [sayingAt?, hnone]
    rw [hsilent] at hv
    exact h _ hbase hview v (by simpa using hv)
  · rcases hv with hsaid | ⟨hsilent, hfound⟩
    · obtain ⟨w, hw, hvalue, -⟩ := sayingAt?_eq_some_iff.1 hsaid
      rw [hlayer, Option.some.injEq] at hw
      subst hw
      exact of_valueAt?_merged hP (hnames _ hlayer) hview hvalue
    · obtain ⟨hclear, hnull⟩ := hopen _ hlayer
      have hnothing : valueAt? (keyParts key) (.map entries) = none := by
        by_contra hsome
        obtain ⟨w, hw⟩ := Option.ne_none_iff_exists'.1 hsome
        have hsaid := sayingAt?_eq_some_iff.2 ⟨_, hlayer, hw, fun hnil => hnull (hnil ▸ hw)⟩
        rw [hsilent] at hsaid
        cases hsaid
      have hlaid := valueAt?_mergeValue (keyParts key) (some (.map base)) (hnames _ hlayer)
      rw [hnothing, hclear, mergeValue_map] at hlaid
      refine h base hbase (fun w hw => hview w ?_) v hfound
      rw [hlaid]
      exact hw

end Agreement

end Layers

end FolderTag.Settings
