import FolderTag.Proofs.Document.Fields
import FolderTag.Proofs.Outcome
import FolderTag.Settings.Loading

/-! # What operations leave alone

An operation that breaks off changes nothing, and one that does not changes what its own source
says. -/

namespace FolderTag.Settings

open FolderTag.Document FolderTag.Files

variable {l l' : Layers} {s t : Source} {key : String} {value : Value} {op : Operation}

/-! ## Single layers -/

namespace Layers

theorem layer_congr (h : l'.content s = l.content s) : l'.layer s = l.layer s :=
  congrArg (Option.map Linked.value) h

@[simp] theorem content_replace_self (l : Layers) (s : Source) (u : Option Linked) :
    (l.replace s u).content s = u := if_pos rfl

theorem content_replace_of_ne (l : Layers) (u : Option Linked) (h : t ≠ s) :
    (l.replace s u).content t = l.content t := if_neg h

@[simp] theorem layer_replace_self (l : Layers) (s : Source) (u : Option Linked) :
    (l.replace s u).layer s = u.map Linked.value :=
  congrArg (Option.map Linked.value) (content_replace_self l s u)

theorem layer_replace_of_ne (l : Layers) (u : Option Linked) (h : t ≠ s) :
    (l.replace s u).layer t = l.layer t := layer_congr (content_replace_of_ne l u h)

theorem layer_opened_of_ne (l : Layers) (h : t ≠ s) : (l.opened s).layer t = l.layer t := by
  rw [opened]
  split_ifs
  · exact layer_replace_of_ne l _ h
  · rfl

theorem opened_of_content {u : Linked} (h : l.content s = some u) : l.opened s = l := by
  simp [opened, h]

theorem layer_clear_defaults (l : Layers) (source : Option Source) :
    (l.clear source).layer .defaults = l.layer .defaults :=
  layer_congr (by simp [clear])

theorem layer_clear_of_ne (l : Layers) (h : t ≠ s) : (l.clear (some s)).layer t = l.layer t :=
  layer_congr (by simp [clear, Ne.symm h])

/-- A value can be set in a source exactly if it says nothing yet, or a mapping. -/
theorem set_eq_ok_iff :
    l.set s key value = .ok l' ↔
      (∃ entries, (l.held s).value = .map entries) ∧
        l' = l.replace s (some (putLinked value (keyParts key) (l.held s))) := by
  unfold set
  cases (l.held s).value with
  | map entries => simp [eq_comm]
  | _ => split <;> simp_all

theorem content_of_set (h : l.set s key value = .ok l') (ht : t ≠ s) :
    l'.content t = l.content t := by
  obtain ⟨-, rfl⟩ := set_eq_ok_iff.1 h
  exact content_replace_of_ne l _ ht

theorem layer_of_set (h : l.set s key value = .ok l') (ht : t ≠ s) : l'.layer t = l.layer t :=
  layer_congr (content_of_set h ht)

/-- A source that said nothing at all can be made to say anything. -/
theorem exists_set_opened (key : String) (value : Value) (h : l.content s = none) :
    ∃ l', (l.opened s).set s key value = .ok l' := by
  refine ⟨_, set_eq_ok_iff.2 ⟨⟨[], ?_⟩, rfl⟩⟩
  rw [held, opened, h, Option.isNone_none, if_pos rfl, content_replace_self]
  rfl

end Layers

/-! ## Single operations -/

namespace Operation

/-- A change that first asks for something goes on with the answer, or breaks off where it is. -/
theorem run_lift_bind {α : Type} (x : Except Fault α) (f : α → Change Unit) (l : Layers) :
    (ExceptT.run (liftM x >>= f : Change Unit)).run l = match x with
      | .ok a => (ExceptT.run (f a)).run l
      | .error fault => (.error fault, l) := by
  cases x <;> rfl

theorem run_loadFile (files : Tree) (path : String) (s : Source) (l : Layers) :
    (loadFile files path s).run l = match readSettings files path with
      | .ok held => (.ok (), l.replace s (some held))
      | .error fault => (.error fault, l) := by
  rw [run, perform, run_lift_bind]
  cases readSettings files path <;> rfl

theorem run_set (key : String) (value : Value) (s : Source) (l : Layers) :
    (Operation.set key value s).run l = match (l.opened s).set s key value with
      | .ok l' => (.ok (), l')
      | .error m => (.error (.misuse m), l.opened s) := by
  have hopen : (Operation.set key value s).run l =
      (ExceptT.run (liftM (((l.opened s).set s key value).mapError Fault.misuse) >>=
        fun l => (MonadState.set l : Change Unit))).run (l.opened s) := rfl
  rw [hopen, run_lift_bind]
  cases (l.opened s).set s key value <;> rfl

/-- An operation leaves alone what it is not about, also when it breaks off. -/
theorem layer_run (op : Operation) (l : Layers) (hsome : op.target? ≠ none)
    (hs : op.target? ≠ some s) : (op.run l).2.layer s = l.layer s := by
  cases op with
  | loadFile files path t =>
      have hne : s ≠ t := fun h => hs (congrArg some h.symm)
      rw [run_loadFile]
      cases readSettings files path with
      | ok entries => exact Layers.layer_replace_of_ne l _ hne
      | error fault => rfl
  | load v t => exact Layers.layer_replace_of_ne l _ fun h => hs (congrArg some h.symm)
  | set key v t =>
      have hne : s ≠ t := fun h => hs (congrArg some h.symm)
      rw [run_set]
      cases h : (l.opened t).set t key v with
      | ok l' => exact (Layers.layer_of_set h hne).trans (Layers.layer_opened_of_ne l hne)
      | error m => exact Layers.layer_opened_of_ne l hne
  | clear source =>
      cases source with
      | none => exact absurd rfl hsome
      | some t => exact Layers.layer_clear_of_ne l fun h => hs (congrArg some h.symm)

/-- An operation that breaks off leaves all layers as they were. -/
theorem layers_of_run_error {fault : Fault} (h : op.run l = (.error fault, l')) : l' = l := by
  cases op with
  | loadFile files path t =>
      rw [run_loadFile] at h
      cases hread : readSettings files path with
      | ok entries => simp [hread] at h
      | error fault => simpa [hread] using (congrArg Prod.snd h).symm
  | load v t => cases h
  | set key v t =>
      rw [run_set] at h
      cases hset : (l.opened t).set t key v with
      | ok l'' => simp [hset] at h
      | error m =>
          cases hcontent : l.content t with
          | none =>
              obtain ⟨l'', hopened⟩ := Layers.exists_set_opened key v hcontent
              rw [hopened] at hset
              cases hset
          | some u =>
              rw [hset, Layers.opened_of_content hcontent] at h
              exact (congrArg Prod.snd h).symm
  | clear source => cases h

theorem layer_defaults_run (op : Operation) (l : Layers) (h : op.writes .defaults = false) :
    (op.run l).2.layer .defaults = l.layer .defaults := by
  cases op with
  | clear source => exact Layers.layer_clear_defaults l source
  | loadFile files path t => exact layer_run _ l (by simp [target?]) (by simpa [writes] using h)
  | load v t => exact layer_run _ l (by simp [target?]) (by simpa [writes] using h)
  | set key v t => exact layer_run _ l (by simp [target?]) (by simpa [writes] using h)

end Operation

/-! ## Runs of operations -/

namespace Layers

theorem layer_defaults_after (l : Layers) {ops : List Operation}
    (h : ∀ op ∈ ops, op.writes .defaults = false) :
    (l.after ops).layer .defaults = l.layer .defaults := by
  induction ops generalizing l with
  | nil => rfl
  | cons op ops ih =>
      have hfirst := Operation.layer_defaults_run op l (h op (List.mem_cons_self ..))
      have hrest := ih (op.run l).2 fun o ho => h o (List.mem_cons_of_mem op ho)
      exact hrest.trans hfirst

theorem loadFile_eq_ok_iff {files : Tree} {path : String} :
    l.loadFile files path s = .ok l' ↔ (Operation.loadFile files path s).run l = (.ok (), l') := by
  rw [loadFile, Operation.run_loadFile]
  cases readSettings files path <;> simp [Except.map]

/-- What the sources of loaded settings say: the defaults, a file if one was named, the environment,
and nothing else. -/
structure IsLoaded (files : Tree) (environment : List (String × String)) (l : Layers) : Prop where
  defaults : l.layer .defaults = some (Value.ofFields defaultSettings)
  userFile : ∀ t, l.content .userFile = some t → ∃ path, readSettings files path = .ok t
  environment : l.content .environment = (environmentLayer? environment).map .plain
  commandLine : l.content .commandLine = none
  run : l.content .run = none

theorem isLoaded_of_load {files : Tree} {environment : List (String × String)}
    {path : Option String} (h : load files environment path = .ok l) :
    IsLoaded files environment l := by
  obtain ⟨l₀, hbelow, h⟩ := bind_eq_ok_iff.1 h
  cases h
  rw [loadBelow] at hbelow
  split at hbelow
  · rename_i path _
    rw [loadFile_eq_ok_iff, Operation.run_loadFile] at hbelow
    cases hread : readSettings files path with
    | error fault => simp [hread] at hbelow
    | ok held =>
        rw [hread, Prod.mk.injEq] at hbelow
        obtain ⟨-, rfl⟩ := hbelow
        refine ⟨rfl, fun t ht => ⟨path, ?_⟩, rfl, rfl, rfl⟩
        rw [hread, ← Option.some.inj ht]
  · cases hbelow
    exact ⟨rfl, fun t ht => (by cases ht), rfl, rfl, rfl⟩

/-! ## Cleared settings -/

theorem layer_clear_of_ne_defaults (l : Layers) (h : s ≠ .defaults) :
    (l.clear none).layer s = none := by
  simp [layer, clear, h]

/-- What is left of cleared settings are the defaults. -/
theorem merged_clear (h : l.layer .defaults = some (Value.ofFields defaultSettings)) :
    (l.clear none).merged = .ok (Value.entriesOf defaultSettings) := by
  have hdefaults : (l.clear none).layer .defaults = some (Value.ofFields defaultSettings) :=
    (layer_clear_defaults l none).trans h
  have hmerged : mergeEntries [] (Value.entriesOf defaultSettings) =
      Value.entriesOf defaultSettings := rfl
  simp [merged, Source.all, mergeSources, hdefaults, Value.ofFields_eq, hmerged,
    layer_clear_of_ne_defaults]

theorem get?_clear (h : l.layer .defaults = some (Value.ofFields defaultSettings))
    (key : String) : (l.clear none).get? key =
      (valueAt? (keyParts key) (Value.ofFields defaultSettings)).bind said? := by
  have hdefaults : (l.clear none).layer .defaults = some (Value.ofFields defaultSettings) :=
    (layer_clear_defaults l none).trans h
  simp [get?, Source.all, sayingAt?, hdefaults, layer_clear_of_ne_defaults]

end Layers

end FolderTag.Settings
