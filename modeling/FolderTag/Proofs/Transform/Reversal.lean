import Mathlib
import FolderTag.Proofs.Transform.Pipeline
import FolderTag.Proofs.Transform.Segments

/-! # What is lost without a warning

A recipe without losses leaves names as they are or writes titles. A title keeps the capitalized
words of every segment and nothing else of it, so that several tags become the same folder. -/

namespace FolderTag.Transform

open FolderTag.Text

variable {k : Convention} {s : List Char}

/-- The capitalized words of every segment of a path. -/
def titledWords (path : List Char) : List (List (List Char)) := (splitAt '/' path).map titleWords

theorem applyToPath_title_eq_iff {a b : List Char} :
    Convention.title.applyToPath a = Convention.title.applyToPath b ↔
      titledWords a = titledWords b := by
  have hwords : ∀ path, (splitAt '/' (Convention.title.applyToPath path)).map (words isSeparator) =
      titledWords path := by
    intro path
    rw [Convention.splitAt_applyToPath, List.map_map]
    exact List.map_congr_left fun s _ => words_title s
  have htitle : ∀ path, Convention.title.applyToPath path =
      joinWith ['/'] ((titledWords path).map (joinWith [' '])) := by
    intro path
    rw [Convention.applyToPath, titledWords, List.map_map]
    exact congrArg (joinWith ['/']) (List.map_congr_left fun s _ => title_eq s)
  constructor
  · intro h
    rw [← hwords, ← hwords, h]
  · intro h
    rw [htitle, htitle, h]

theorem isTrimmed_applyToPath (h : ∀ s, IsTrimmed (k.apply s)) (path : List Char) :
    IsTrimmed (k.applyToPath path) := by
  induction path using segment_induction '/' with
  | segment s hs =>
      rw [k.applyToPath_of_notMem hs]
      exact h s
  | step s path hs ih =>
      rw [k.applyToPath_append hs]
      exact isTrimmed_append_sep (by decide) (h s) ih

namespace Recipe

variable {r : Recipe} {tag : String}

/-- What a recipe without losses does. -/
theorem losses_eq_nil_iff :
    r.losses = [] ↔ r.stripsEmoji = false ∧ r.stripsNumber = false ∧ r.rewrites = [] ∧
      (r.converts? = none ∨ r.converts? = some .title) := by
  rw [losses]
  cases r.stripsEmoji <;> cases r.stripsNumber <;> cases r.rewrites <;>
    rcases hk : r.converts? with _ | k <;> simp
  cases k <;> simp

/-- A recipe without losses trims and, if it converts, writes titles. -/
theorem value_tagToFolder (h : r.losses = []) (preserve : Bool) (ht : IsTrimmed tag.toList) :
    (r.tagToFolder preserve tag).value =
      match r.converts? with
      | none => tag
      | some _ => String.ofList (Convention.title.applyToPath tag.toList) := by
  obtain ⟨hemoji, hnumber, hrewrites, hconverts⟩ := losses_eq_nil_iff.1 h
  rw [tagToFolder, value_apply_of_rewrites_nil hrewrites, drafted, hemoji, hnumber,
    trim_of_isTrimmed ht]
  rcases hconverts with hnone | htitle
  · rw [hnone, finished]
    simp [trim_of_isTrimmed ht]
  · have htrimmed := isTrimmed_applyToPath (k := .title) isTrimmed_title tag.toList
    rw [htitle, finished]
    simp [trim_of_isTrimmed htrimmed]

end Recipe

end FolderTag.Transform
