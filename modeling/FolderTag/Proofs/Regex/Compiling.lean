import FolderTag.Proofs.Regex.InStep
import FolderTag.Regex.Expression

/-! # Compiling under more flags

Flags that say only how characters are compared decide nothing about whether a pattern can be
compiled: the expression is the same, and so is the error. -/

namespace FolderTag.Regex

open Parse List

variable {f flags flags' : Flags}

theorem ignores_standard_members (c : Char) : Ignores f (Escapes.standard.members c) :=
  (ignores_setEscape c).bind fun _ => .pure _

theorem eq_of_forall₂ {ns ns' : List Node} (h : Forall₂ Eq ns ns') : ns = ns' := by
  rwa [forall₂_eq_eq_eq] at h

/-- Two readings with the escapes as they are written find the same nodes. -/
theorem parallel_standard : Parallel True f Eq .standard .standard where
  item c := .of_alike (ignores_itemEscape c)
  set start := .of_alike (ignores_setNode ignores_standard_members start)
  repeatLast {mark low high done done'} hdone := by
    rw [eq_of_forall₂ hdone, forall₂_eq_eq_eq]
    exact .of_alike (ignores_repeatLast mark low high done')
  same _ := rfl
  width h := by rw [h]
  sequence h := by rw [eq_of_forall₂ h]
  choice h hs := by rw [h, eq_of_forall₂ hs]
  group h := by rw [h]
  atomic h := by rw [h]
  look h := by rw [h]
  cond h h' := by rw [h, h']

theorem parse_union (hf : f.IsSilent) (pattern : List Char) (flags : Flags) :
    parse .standard pattern (flags.union f) =
      (parse .standard pattern flags).map fun p => { p with flags := p.flags.union f } := by
  obtain ⟨hok, herror⟩ := parse_tracks parallel_standard hf pattern flags
  cases h : parse .standard pattern flags with
  | error e => exact herror trivial e h
  | ok p =>
      obtain ⟨node, hparse, rfl⟩ := hok p h
      exact hparse

/-! ## The check of a tree -/

theorem Flags.template_within (flags on off : Flags) :
    (flags.within on off).template = ((flags.template || on.template) && !off.template) := by
  unfold within
  split <;> rfl

/-- The check of a tree asks for no flag but the template mode. -/
theorem Node.check_congr {widths : List (Option Width)} (n : Node)
    (h : flags.template = flags'.template) : n.check widths flags = n.check widths flags' := by
  induction n generalizing flags flags' with
  | empty => rfl
  | seq a b iha ihb => rw [check, check, iha h, ihb h]
  | alt a b iha ihb => rw [check, check, iha h, ihb h]
  | code negated n => rfl
  | any => rfl
  | set negated items => rfl
  | anchor a => rfl
  | group index on off body ih =>
      exact ih (by rw [Flags.template_within, Flags.template_within, h])
  | atomic body ih => exact ih h
  | rep greed low high body ih => rw [check, check, ih h, h]
  | look behind negated body ih => rw [check, check, ih h]
  | backref group => rfl
  | cond group yes no ihyes ihno => rw [check, check, ihyes h, ihno h]

/-- Compiling does not depend on how characters are compared. -/
theorem compile_union (hf : f.IsSilent) (source : String) (flags : Flags) :
    compile source (flags.union f) =
      (compile source flags).map fun e => { e with flags := e.flags.union f } := by
  rw [compile, compileWith, compileWith, parse_union hf]
  cases parse .standard source.toList flags with
  | error e => rfl
  | ok p =>
      have htemplate : (p.flags.union f).template = p.flags.template := by
        simp [Flags.union, hf.template]
      have hcheck : p.node.check p.widths (p.flags.union f) = p.node.check p.widths p.flags :=
        p.node.check_congr htemplate
      change (p.node.check p.widths (p.flags.union f) >>= _) =
        (p.node.check p.widths p.flags >>= _).map _
      rw [hcheck]
      cases p.node.check p.widths p.flags with
      | error e => rfl
      | ok _ => rfl

theorem Flags.none_union (f : Flags) : Flags.none.union f = f := by
  simp [Flags.union, Flags.none]

end FolderTag.Regex
