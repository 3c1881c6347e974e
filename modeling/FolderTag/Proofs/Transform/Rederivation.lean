import Mathlib
import FolderTag.Proofs.Transform.Segments
import FolderTag.Proofs.Transform.Stripping
import FolderTag.Proofs.Transform.TagForm

/-! # Tags that are derived again

Deriving a tag again keeps it exactly if every stage keeps it: no stage undoes what another one has
changed, because from stage to stage there are fewer separators. The stages come in a fixed order,
so that the characters which are taken out last can uncover what an earlier stage looks for. -/

namespace FolderTag.Transform

open FolderTag.Text

namespace Recipe

variable {r : Recipe} {c : Char} {s t : List Char}

/-! ## The stages on their own -/

/-- The convention that names are written in. -/
def writes (r : Recipe) : Convention := r.converts?.getD .asIs

def withoutEmoji (r : Recipe) (s : List Char) : List Char :=
  if r.stripsEmoji then stripEmoji s else s

def withoutNumber (r : Recipe) (s : List Char) : List Char :=
  if r.stripsNumber then stripNumber s else s

/-- What a recipe without rewrites makes of a text on its way to a tag. -/
def derived (r : Recipe) (s : List Char) : List Char := finished true (r.drafted s)

theorem drafted_eq (r : Recipe) (s : List Char) :
    r.drafted s = r.writes.applyToPath (r.withoutNumber (r.withoutEmoji (Text.trim s))) := by
  rw [drafted, writes]
  cases r.converts? with
  | none => rw [Option.getD_none, Convention.applyToPath_asIs]; rfl
  | some k => rfl

/-- Each stage on its own keeps a text. -/
structure Leaves (r : Recipe) (s : List Char) : Prop where
  trimmed : Text.trim s = s
  emoji : r.withoutEmoji s = s
  number : r.withoutNumber s = s
  converted : r.writes.applyToPath s = s
  tagChars : dropTagBreakers s = s

theorem made_ofChars_eq_self_iff {sort name tag : String} {f : List Char → List Char} :
    (Stage.ofChars sort name f).made tag = tag ↔ f tag.toList = tag.toList := by
  rw [← String.toList_inj, ← String.toList_ofList (l := f tag.toList)]
  rfl

theorem keepsCase_iff {tag : String} :
    (∀ s ∈ (match r.converts? with
        | some k => [Stage.convention "case" k]
        | none => []), s.made tag = tag) ↔ r.writes.applyToPath tag.toList = tag.toList := by
  rw [writes]
  cases r.converts? with
  | none => simp
  | some k => simp [Stage.convention, made_ofChars_eq_self_iff]

theorem leaves_iff (hr : r.rewrites = []) {tag : String} :
    r.Leaves tag.toList ↔ ∀ s ∈ r.stages true, s.made tag = tag := by
  have hwhen : ∀ (b : Bool) (sort name : String) (f : List Char → List Char),
      (∀ s ∈ if b then [Stage.ofChars sort name f] else [], s.made tag = tag) ↔
        (if b then f tag.toList else tag.toList) = tag.toList := by
    intro b sort name f
    cases b
    · simp
    · simp [made_ofChars_eq_self_iff]
  have htrim : ∀ name : String, (∀ s ∈ [Stage.trim name], s.made tag = tag) ↔
      Text.trim tag.toList = tag.toList := by
    intro name
    rw [List.forall_mem_singleton]
    exact made_ofChars_eq_self_iff
  rw [stages, hr, List.forall_mem_append, List.forall_mem_append, List.forall_mem_append,
    List.forall_mem_append, List.forall_mem_append, List.forall_mem_append, htrim, htrim,
    Stage.emoji, Stage.number, Stage.tagChars, hwhen, hwhen, hwhen]
  constructor
  · rintro ⟨htrimmed, hemoji, hnumber, hpath, hchars⟩
    exact ⟨⟨⟨⟨⟨⟨htrimmed, hemoji⟩, hnumber⟩, keepsCase_iff.2 hpath⟩, by simp⟩, hchars⟩, htrimmed⟩
  · rintro ⟨⟨⟨⟨⟨⟨htrimmed, hemoji⟩, hnumber⟩, hpath⟩, -⟩, hchars⟩, -⟩
    exact ⟨htrimmed, hemoji, hnumber, keepsCase_iff.1 hpath, hchars⟩

theorem derived_of_leaves (h : r.Leaves s) : r.derived s = s := by
  rw [derived, drafted_eq, h.trimmed, h.emoji, h.number, h.converted, finished, if_pos rfl,
    h.tagChars, h.trimmed]

/-! ## What is in a tag -/

theorem dropTagBreakers_eq_self_iff : dropTagBreakers s = s ↔ ∀ c ∈ tagBreakers, c ∉ s := by
  rw [dropTagBreakers, List.filter_eq_self]
  constructor
  · intro h c hc hmem
    have := h c hmem
    rw [List.contains_iff_mem.2 hc] at this
    cases this
  · intro h c hmem
    cases hc : tagBreakers.contains c with
    | false => rfl
    | true => exact absurd hmem (h c (List.contains_iff_mem.1 hc))

theorem derived_sublist (r : Recipe) (s : List Char) : (r.derived s).Sublist (r.drafted s) :=
  (infix_trimWhile isBlank _).sublist.trans List.filter_sublist

theorem trim_derived (r : Recipe) (s : List Char) : Text.trim (r.derived s) = r.derived s :=
  trim_of_isTrimmed (isTrimmed_trim _)

theorem dropTagBreakers_derived (r : Recipe) (s : List Char) :
    dropTagBreakers (r.derived s) = r.derived s :=
  dropTagBreakers_eq_self_iff.2 fun _ hc => notMem_finished hc

theorem mem_withoutEmoji (h : c ∈ r.withoutEmoji s) : c = ' ' ∨ c ∈ s := by
  rw [withoutEmoji] at h
  split_ifs at h
  · exact (mem_stripEmoji h).imp_right And.left
  · exact .inr h

theorem infix_withoutNumber (r : Recipe) (s : List Char) : r.withoutNumber s <:+: s := by
  rw [withoutNumber]
  split_ifs
  · exact infix_stripNumber s
  · exact List.infix_refl s

/-- Where emoji are stripped, a tag has none, and no white space but blanks. -/
theorem of_mem_derived (h : r.stripsEmoji = true) (hc : c ∈ r.derived s) :
    isPictorial c = false ∧ (isBlank c = true → c = ' ') := by
  have hdrawn := isDrawnFrom_applyToPath r.writes
    (r.withoutNumber (r.withoutEmoji (Text.trim s)))
  have hmem := (derived_sublist r s).subset hc
  have hbefore : ∀ d ∈ r.withoutNumber (r.withoutEmoji (Text.trim s)),
      isPictorial d = false ∧ (isBlank d = true → d = ' ') := by
    intro d hd
    have hstripped := (infix_withoutNumber r _).sublist.subset hd
    rw [withoutEmoji, if_pos h] at hstripped
    refine ⟨isPictorial_of_mem_stripEmoji hstripped, fun hblank => ?_⟩
    refine (mem_stripEmoji hstripped).resolve_right ?_
    rintro ⟨-, -, hnone⟩
    rw [hblank] at hnone
    cases hnone
  rw [drafted_eq] at hmem
  constructor
  · by_contra hpictorial
    rw [Bool.not_eq_false] at hpictorial
    have hd := hdrawn.mem_of_mem (isUncased_of_isPictorial hpictorial)
      (isSeparator_of_isPictorial hpictorial) hmem
    rw [(hbefore c hd).1] at hpictorial
    cases hpictorial
  · intro hblank
    exact (hdrawn.eq_blank_or_mem hblank hmem).elim id fun hd => (hbefore c hd).2 hblank

/-! ## From stage to stage -/

theorem countP_withoutEmoji_le (r : Recipe) (s : List Char) :
    (r.withoutEmoji s).countP isSeparator ≤ s.countP isSeparator := by
  rw [withoutEmoji]
  split_ifs
  · exact countP_stripEmoji_le s
  · exact Nat.le_refl _

theorem withoutEmoji_of_countP_eq
    (hs : r.stripsEmoji = true → ∀ c ∈ s, isPictorial c = false ∧ (isBlank c = true → c = ' '))
    (h : (r.withoutEmoji s).countP isSeparator = s.countP isSeparator) : r.withoutEmoji s = s := by
  rw [withoutEmoji] at h ⊢
  split_ifs at h ⊢ with hstrips
  · exact stripEmoji_of_countP_eq (fun c hc => (hs hstrips c hc).1)
      (fun c hc => (hs hstrips c hc).2) h
  · rfl

theorem withoutNumber_of_countP_eq
    (h : (r.withoutNumber s).countP isSeparator = s.countP isSeparator) :
    r.withoutNumber s = s := by
  rw [withoutNumber] at h ⊢
  split_ifs at h ⊢
  · cases hnumber : hasNumber s with
    | false => exact stripNumber_of_hasNumber_eq_false hnumber
    | true => exact absurd h (countP_stripNumber_lt hnumber).ne
  · rfl

theorem isUpper_of_mem_derived (hk : r.writes.Separates) (hc : c ∈ r.derived s) :
    c.isUpper = false := by
  have hmem := (derived_sublist r s).subset hc
  rw [drafted_eq] at hmem
  exact isUpper_of_mem_applyToPath hk hmem

/-- Separators could only come from capitals, and separated words have none. -/
theorem countP_written_le (h : r.writes.Separates → ∀ c ∈ s, c.isUpper = false) :
    (r.writes.applyToPath (r.withoutNumber (r.withoutEmoji s))).countP isSeparator ≤
      (r.withoutNumber (r.withoutEmoji s)).countP isSeparator := by
  refine countP_applyToPath_le fun hk c hc => ?_
  rcases mem_withoutEmoji ((infix_withoutNumber r _).sublist.subset hc) with rfl | hmem
  · decide
  · exact h hk c hmem

/-- What a tag is written as has nothing in it that a tag cannot hold. -/
theorem dropTagBreakers_applyToPath {k : Convention} (h : dropTagBreakers s = s) :
    dropTagBreakers (k.applyToPath s) = k.applyToPath s := by
  have hkind : tagBreakers.all (fun c => isUncased c && !isSeparator c) = true := by decide
  refine dropTagBreakers_eq_self_iff.2 fun c hc hmem => ?_
  obtain ⟨huncased, hsep⟩ : isUncased c = true ∧ isSeparator c = false := by
    simpa using List.all_eq_true.1 hkind c hc
  exact dropTagBreakers_eq_self_iff.1 h c hc
    ((isDrawnFrom_applyToPath k s).mem_of_mem huncased hsep hmem)

/-- A tag that is derived again without a change is kept by each stage on its own. -/
theorem leaves_derived (h : r.derived (r.derived s) = r.derived s) : r.Leaves (r.derived s) := by
  have hcapitals : r.writes.Separates → ∀ c ∈ r.derived s, c.isUpper = false :=
    fun hk c hc => isUpper_of_mem_derived hk hc
  have hpictures : r.stripsEmoji = true → ∀ c ∈ r.derived s,
      isPictorial c = false ∧ (isBlank c = true → c = ' ') :=
    fun hstrips c hc => of_mem_derived hstrips hc
  have htrimmed := trim_derived r s
  have hchars := dropTagBreakers_derived r s
  generalize r.derived s = tag at *
  generalize hplain : r.withoutEmoji tag = plain
  generalize hname : r.withoutNumber plain = name
  generalize hdraft : r.writes.applyToPath name = draft
  have hfinal : Text.trim (dropTagBreakers draft) = tag := by
    rw [← h, derived, drafted_eq, htrimmed, hplain, hname, hdraft, finished, if_pos rfl]
  have hplainCount : plain.countP isSeparator ≤ tag.countP isSeparator :=
    hplain ▸ countP_withoutEmoji_le r tag
  have hnameCount : name.countP isSeparator ≤ plain.countP isSeparator :=
    hname ▸ (infix_withoutNumber r plain).sublist.countP_le
  have hdraftCount : draft.countP isSeparator ≤ name.countP isSeparator := by
    rw [← hdraft, ← hname, ← hplain]
    exact countP_written_le hcapitals
  have hcharsCount : (dropTagBreakers draft).countP isSeparator ≤ draft.countP isSeparator :=
    List.filter_sublist.countP_le
  have hfinalCount : tag.countP isSeparator ≤ (dropTagBreakers draft).countP isSeparator := by
    rw [← hfinal]
    exact (infix_trimWhile isBlank _).sublist.countP_le
  -- In the end there are as many separators as before, so that no stage takes one out.
  have hnumber : name = plain := by
    rw [← hname]
    exact withoutNumber_of_countP_eq (by rw [hname]; omega)
  have hemoji : plain = tag := by
    rw [← hplain]
    exact withoutEmoji_of_countP_eq hpictures (by rw [hplain]; omega)
  rw [hnumber, hemoji] at hname hdraft
  rw [hemoji] at hplain
  have hkept : dropTagBreakers draft = draft := hdraft ▸ dropTagBreakers_applyToPath hchars
  rw [hkept] at hfinal hfinalCount
  have hconverted : draft = tag := by
    rw [← hfinal]
    exact (trim_of_countP_eq (by rw [hfinal]; omega)).symm
  exact ⟨htrimmed, hplain, hname, hdraft.trans hconverted, hchars⟩

/-! ## Tags that are kept -/

theorem mem_withoutNumber (h : c ∈ r.withoutNumber (r.withoutEmoji (Text.trim s))) :
    c = ' ' ∨ c ∈ s :=
  (mem_withoutEmoji ((infix_withoutNumber r _).sublist.subset h)).imp_right mem_of_mem_trim

/-- What is written once and loses only the white space around it is kept by each stage, unless a
number comes to its beginning. -/
theorem leaves_of_dropTagBreakers_eq (hdraft : dropTagBreakers (r.drafted s) = r.drafted s)
    (hnumber : r.stripsNumber = true → hasNumber (r.derived s) = false)
    (hcapital : r.writes = .title → ∀ c ∈ s, HasPlainCapital c) : r.Leaves (r.derived s) := by
  have hderived : r.derived s = Text.trim (r.drafted s) := by
    rw [derived, finished, if_pos rfl, hdraft]
  refine ⟨trim_derived r s, ?_, ?_, ?_, dropTagBreakers_derived r s⟩
  · rw [withoutEmoji]
    split_ifs with hstrips
    · have hspaced : collapse isBlank ' ' (r.derived s) = r.derived s := by
        have hplain := collapse_stripEmoji (Text.trim s)
        rw [hderived, drafted_eq, withoutEmoji, if_pos hstrips]
        exact collapse_eq_self_of_part (infix_trimWhile isBlank _)
          (collapse_applyToPath (collapse_eq_self_of_part (infix_withoutNumber r _) hplain))
      rw [stripEmoji_eq fun c hc => (of_mem_derived hstrips hc).1, hspaced, trim_derived]
    · rfl
  · rw [withoutNumber]
    split_ifs with hstrips
    · exact stripNumber_of_hasNumber_eq_false (hnumber hstrips)
    · rfl
  · rw [hderived, drafted_eq]
    refine applyToPath_trim (applyToPath_applyToPath fun hk c hc => ?_)
    rcases mem_withoutNumber hc with rfl | hmem
    · intro hword
      rw [isWordChar_of_isBlank (by decide)] at hword
      cases hword
    · exact hcapital hk c hmem

/-- Letter by letter, what has been written stays so in all of its parts. -/
theorem leaves_of_recases (hemoji : r.stripsEmoji = false) (hnumber : r.stripsNumber = false)
    (hk : r.writes.Recases) (s : List Char) : r.Leaves (r.derived s) := by
  refine ⟨trim_derived r s, by simp [withoutEmoji, hemoji], by simp [withoutNumber, hnumber], ?_,
    dropTagBreakers_derived r s⟩
  have hwritten : r.writes.applyToPath (r.drafted s) = r.drafted s := by
    rw [drafted_eq]
    refine applyToPath_applyToPath fun htitle => ?_
    rw [htitle] at hk
    rcases hk with hk | hk | hk <;> cases hk
  rw [hk.applyToPath_eq_self_iff] at hwritten ⊢
  exact fun c hc => hwritten c ((derived_sublist r s).subset hc)

/-! ## Tags that are changed -/

/-- The stages before the rewrites, by what they depend on. -/
theorem derived_eq (r : Recipe) (s : List Char) :
    r.derived s = Text.trim (dropTagBreakers (r.writes.applyToPath
      (if r.stripsNumber then
          stripNumber (if r.stripsEmoji then stripEmoji (Text.trim s) else Text.trim s)
        else if r.stripsEmoji then stripEmoji (Text.trim s) else Text.trim s))) := by
  rw [derived, drafted_eq]
  rfl

/-- A character that is taken out at the end uncovers a capital, a small letter, a second blank or a
number. -/
theorem exists_derived_ne
    (h : ¬ (r.stripsEmoji = false ∧ r.stripsNumber = false ∧ r.writes.Recases)) :
    ∃ s, r.derived (r.derived s) ≠ r.derived s := by
  simp only [derived_eq]
  generalize r.stripsEmoji = emoji, r.stripsNumber = number, r.writes = k at h
  cases k with
  | snake | kebab | camel =>
      exact ⟨".A".toList, by cases emoji <;> cases number <;> decide_cbv⟩
  | pascal => exact ⟨".a".toList, by cases emoji <;> cases number <;> decide_cbv⟩
  | title => exact ⟨"a . b".toList, by cases emoji <;> cases number <;> decide_cbv⟩
  | asIs | lower | upper =>
      cases number with
      | true => exact ⟨"!1 a".toList, by cases emoji <;> decide_cbv⟩
      | false =>
          cases emoji with
          | true => exact ⟨"a . b".toList, by decide_cbv⟩
          | false => exact absurd ⟨rfl, rfl, by simp [Convention.Recases]⟩ h

/-! ## Deriving twice -/

theorem value_folderToTag (hr : r.rewrites = []) (preserve : Bool) (text : String) :
    (r.folderToTag preserve text).value = String.ofList (r.derived text.toList) :=
  value_apply_of_rewrites_nil hr true preserve text

/-- A tag that is derived again stays as it is exactly if every stage on its own leaves it as it is.
It does so where the text lost nothing that a tag cannot hold, if no number is left to strip and
capitals are plain. All tags of a recipe stay as they are exactly if it strips nothing and writes
letter by letter. -/
theorem folderToTag_twice {r : Recipe} (hr : r.rewrites = []) (preserve : Bool) :
    let tag := fun text : String => (r.folderToTag preserve text).value
    (∀ text, tag (tag text) = tag text ↔ ∀ s ∈ r.stages true, s.made (tag text) = tag text) ∧
      (∀ text : String, (∀ c ∈ tagBreakers, c ∉ r.drafted text.toList) →
        (r.stripsNumber = true → hasNumber (tag text).toList = false) →
        (r.writes = .title → ∀ c ∈ text.toList, HasPlainCapital c) → tag (tag text) = tag text) ∧
      ((∀ text, tag (tag text) = tag text) ↔
        r.stripsEmoji = false ∧ r.stripsNumber = false ∧ r.writes.Recases) := by
  intro tag
  have htag : ∀ text : String, (tag text).toList = r.derived text.toList := fun text => by
    rw [← String.toList_ofList (l := r.derived text.toList), ← value_folderToTag hr preserve text]
  have htwice : ∀ text : String, tag (tag text) = tag text ↔ r.Leaves (r.derived text.toList) := by
    intro text
    rw [← String.toList_inj, htag, htag]
    exact ⟨leaves_derived, derived_of_leaves⟩
  refine ⟨fun text => ?_, fun text hdraft hnumber hcapital => ?_, fun hall => ?_, ?_⟩
  · rw [htwice, ← htag, leaves_iff hr]
  · rw [htag] at hnumber
    exact (htwice text).2 (leaves_of_dropTagBreakers_eq (dropTagBreakers_eq_self_iff.2 hdraft)
      hnumber hcapital)
  · by_contra hstages
    obtain ⟨s, hs⟩ := exists_derived_ne hstages
    have hsame := (htwice (String.ofList s)).1 (hall _)
    rw [String.toList_ofList] at hsame
    exact hs (derived_of_leaves hsame)
  · rintro ⟨hemoji, hnumber, hk⟩ text
    exact (htwice text).2 (leaves_of_recases hemoji hnumber hk text.toList)

/-- All stages, on a name with an emoji, a number and a point at its end. -/
theorem folderToTag_twice_all_stages :
    let r : Recipe := { convention := some .kebab, emoji := some .strip, number := some .strip }
    r.rewrites = [] ∧ (r.folderToTag false "📁 02 - Client Work").value = "client-work" ∧
      (r.folderToTag false "client-work").value = "client-work" ∧
      ∀ s ∈ r.stages true, s.made "client-work" = "client-work" := by
  intro r
  have htag : (r.folderToTag false "📁 02 - Client Work").value = "client-work" := by
    cbv
  obtain ⟨hleft, hkept, -⟩ := folderToTag_twice (r := r) rfl false
  have hsame := hkept "📁 02 - Client Work" (dropTagBreakers_eq_self_iff.1 (by cbv))
    (by decide_cbv) fun htitle => absurd htitle (by decide)
  have hstages := (hleft "📁 02 - Client Work").1 hsame
  simp only [htag] at hsame hstages
  exact ⟨rfl, htag, hsame, hstages⟩

/-- The mark that is taken out last leaves a hyphen at the beginning, which is then dropped. -/
theorem folderToTag_uncovers_hyphen :
    let r : Recipe := { convention := some .kebab }
    r.rewrites = [] ∧ (r.folderToTag false "!Important").value = "-important" ∧
      (r.folderToTag false "-important").value = "important" := by
  exact ⟨rfl, by cbv, by cbv⟩

end Recipe

end FolderTag.Transform
