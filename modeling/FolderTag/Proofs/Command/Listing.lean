import FolderTag.Command.Task
import FolderTag.Proofs.Mapping.Mapper
import FolderTag.Proofs.Matching.Conflicts

/-! # What is listed for a folder

A path that is mapped is brought into normal form before rules are matched with it, a path for which
matches are listed is not. So the rule that maps a path is listed for its normal form, and for the
path as it was given only where the pattern of the rule matches that as well. -/

namespace FolderTag.Command

open FolderTag.Document FolderTag.Log FolderTag.Mapping FolderTag.Matching FolderTag.Pattern

variable {s : Session} {interrupted : Bool} {path input pattern : String} {r : Rule}
variable {m : RuleMatch} {found group : List RuleMatch} {mapped : Mapped} {printed : Printed}

/-! ## Parts of a run -/

section Parts

variable {α : Type} {a : α}

@[simp] theorem outcome_running_eq_ok_iff {x : Attempt Interruption α} :
    (running x).outcome = .ok a ↔ x.outcome = .ok a := by
  rw [running, Attempt.outcome_adapt, mapError_eq_ok_iff]

@[simp] theorem outcome_printing_eq_ok_iff {x : Except Misuse α} :
    (printing x).outcome = .ok a ↔ x = .ok a := by
  rw [printing, Attempt.outcome_ofExcept, mapError_eq_ok_iff]

end Parts

/-! ## Lines -/

theorem exists_lineForm {v : Value} (h : v.isShowable = true) : ∃ line, lineForm v = .ok line :=
  ⟨v.shownString, by rw [lineForm, if_pos h]⟩

theorem exists_joinIds (h : ∀ m ∈ group, ∃ id, m.rule.id = .text id) (i : Nat) :
    ∃ ids, joinIds i group = .ok ids := by
  induction group generalizing i with
  | nil => exact ⟨[], rfl⟩
  | cons m group ih =>
      obtain ⟨⟨id, hid⟩, hgroup⟩ := List.forall_mem_cons.1 h
      obtain ⟨ids, hids⟩ := ih hgroup (i + 1)
      exact ⟨id :: ids, by rw [joinIds, hid, hids]; rfl⟩

/-- A rule that can be named in a line, and compared with others. -/
structure IsPrintable (r : Rule) : Prop where
  text_id : ∃ id, r.id = .text id
  whole_priority : ∃ n, r.priority.whole? = some n
  showable_priority : r.priority.isShowable = true

theorem exists_matchLine (h : IsPrintable m.rule) : ∃ line, matchLine m = .ok line := by
  obtain ⟨id, hid⟩ := h.text_id
  obtain ⟨priority, hpriority⟩ := exists_lineForm h.showable_priority
  exact ⟨_, by rw [matchLine, hid, RuleMatch.priority, hpriority]; rfl⟩

theorem exists_conflictLine (h : ∀ m ∈ group, IsPrintable m.rule) :
    ∃ line, conflictLine group = .ok line := by
  obtain ⟨ids, hids⟩ := exists_joinIds (fun m hm => (h m hm).text_id) 0
  rw [conflictLine, hids, ok_bind]
  cases group with
  | nil => exact ⟨_, rfl⟩
  | cons m group =>
      obtain ⟨priority, hpriority⟩ := exists_lineForm (h m List.mem_cons_self).showable_priority
      exact ⟨_, by simp only [List.head?_cons, RuleMatch.priority, hpriority, ok_bind]; rfl⟩

/-! ## The listing -/

/-- What is asked where matches are listed for a folder: rules for either direction take part. -/
def Session.listing (s : Session) : Query :=
  { side := some .folder, includeDisabled := s.isOn "matching.include_disabled" }

theorem outcome_listing_iff :
    (s.perform interrupted (.matching (some .folder) true input)).outcome = .ok printed ↔
      ∃ found groups, (matchesOf input s.listing s.rules.rules).outcome = .ok found ∧
        (findConflicts input s.listing s.rules.rules).outcome = .ok groups ∧
        found.mapM matchLine = .ok printed.out ∧ groups.mapM conflictLine = .ok printed.err ∧
        printed.exit = if found.isEmpty then exitNothing else 0 := by
  have hsteps : (s.perform interrupted (.matching (some .folder) true input)).outcome =
      (running (matchesOf input s.listing s.rules.rules)).outcome >>= fun found =>
        (printing (found.mapM matchLine)).outcome >>= fun lines =>
          (running (findConflicts input s.listing s.rules.rules)).outcome >>= fun groups =>
            (printing (groups.mapM conflictLine)).outcome >>= fun warnings => .ok {
              exit := if found.isEmpty then exitNothing else 0
              out := lines
              err := warnings } := by
    simp [Session.perform, printMatches, conflictLines, Session.listing]
  rw [hsteps]
  simp only [bind_eq_ok_iff, outcome_running_eq_ok_iff, outcome_printing_eq_ok_iff, Except.ok.injEq]
  constructor
  · rintro ⟨found, hfound, lines, hlines, groups, hgroups, warnings, hwarnings, rfl⟩
    exact ⟨found, groups, hfound, hgroups, hlines, hwarnings, rfl⟩
  · rintro ⟨found, groups, hfound, hgroups, hlines, hwarnings, hexit⟩
    exact ⟨found, hfound, _, hlines, groups, hgroups, _, hwarnings, by rw [← hexit]⟩

/-- Listing the matches for a path comes to an end. -/
def Session.CanList (s : Session) (input : String) : Prop :=
  ∃ printed, ∀ interrupted,
    (s.perform interrupted (.matching (some .folder) true input)).outcome = .ok printed

/-- A rule is among those whose matches for a path are listed, a line for each of them. -/
def Session.Lists (s : Session) (input : String) (r : Rule) : Prop :=
  ∃ found printed, (matchesOf input s.listing s.rules.rules).outcome = .ok found ∧
    (∀ interrupted,
      (s.perform interrupted (.matching (some .folder) true input)).outcome = .ok printed) ∧
    printed.exit = 0 ∧ found.mapM matchLine = .ok printed.out ∧ ∃ m ∈ found, m.rule = r

/-- A rule that is looked at is listed exactly where the listing comes to an end and the path as it
was given matches the pattern of the rule. -/
theorem lists_iff (hr : r ∈ s.rules.rules) (hused : s.listing.considers r = true)
    (hpattern : r.folder.usedPattern? = some pattern) :
    s.Lists input r ↔ s.CanList input ∧ (isMatch input pattern "").outcome = .ok true := by
  constructor
  · rintro ⟨found, printed, hfound, hprinted, -, -, m, hm, hrule⟩
    obtain ⟨r', -, heval⟩ := (mem_of_matchesOf_iff hfound).1 hm
    obtain ⟨rfl, pattern', hpattern', hmatch⟩ := isMatch_of_evaluate heval
    obtain rfl : pattern = pattern' := by
      rw [← Option.some.injEq, ← hpattern, ← hpattern', hrule]
      rfl
    exact ⟨⟨printed, hprinted⟩, hmatch⟩
  · rintro ⟨⟨printed, hprinted⟩, hmatch⟩
    obtain ⟨found, groups, hfound, -, hlines, -, hexit⟩ := outcome_listing_iff.1 (hprinted false)
    have henabled : r.enabled.isSet = true ∨ s.listing.includeDisabled = true := by
      simpa [Query.considers] using hused
    have hmem : _ ∈ found := (mem_of_matchesOf_iff hfound).2
      ⟨r, hr, outcome_evaluate_of_isMatch henabled rfl hpattern hmatch⟩
    have hsome : found.isEmpty = false := List.isEmpty_eq_false_iff.2 (List.ne_nil_of_mem hmem)
    exact ⟨found, printed, hfound, hprinted, by rw [hexit, hsome]; rfl, hlines, _, hmem, rfl⟩

/-! ## When a listing comes to an end -/

/-- What a listing needs of rules that a mapping of folders may leave alone: each can be named in a
line, and the compiler does not break off at the folder patterns of rules that are only for tags. -/
structure Session.IsListable (s : Session) : Prop where
  printable : ∀ r ∈ s.rules.rules, IsPrintable r
  answers : ∀ r ∈ s.rules.rules, r.direction = some .tagToFolder →
    ∀ pattern, r.folder.usedPattern? = some pattern →
      ∀ refusal, compile pattern "" = .error refusal → refusal.isInvalid = true

/-- Where the rules for folders are evaluated to the end for one path, all rules are for any. -/
theorem exists_matchesOf_listing (hlistable : s.IsListable)
    (h : (matchesOf path (s.mapper.query .folder .folderToTag) s.rules.rules).outcome = .ok found)
    (input : String) : ∃ found, (matchesOf input s.listing s.rules.rules).outcome = .ok found := by
  refine exists_matchesOf_iff.2 fun r hr => (exists_evaluate_iff_answers rfl).2 fun hused => ?_
  obtain ⟨hdirection, hanswers⟩ := (exists_evaluate_iff_answers rfl).1
    (exists_matchesOf_iff.1 ⟨found, h⟩ r hr) hused
  refine ⟨nofun, fun _ pattern hpattern => exists_isMatch_iff.2 ?_⟩
  cases hadmits : (s.mapper.query .folder .folderToTag).admits r.direction with
  | true => exact exists_isMatch_iff.1 (hanswers hadmits pattern hpattern)
  | false =>
      -- The mapping only gets past a rule that it may not use if the rule names its direction.
      have hopposite : r.direction = some .tagToFolder := by
        obtain ⟨d, hd⟩ := Option.ne_none_iff_exists'.1 (hdirection hadmits)
        rw [hd] at hadmits ⊢
        cases d with
        | tagToFolder => rfl
        | folderToTag => simp [Query.admits, Mapper.query] at hadmits
        | both => simp [Query.admits] at hadmits
      exact hlistable.answers r hr hopposite pattern hpattern

theorem canList_of_mapFolder (hlistable : s.IsListable)
    (h : (s.mapper.mapFolder path).outcome = .ok mapped) (input : String) : s.CanList input := by
  have hreports : s.mapper.Reports (normalPath path) mapped := reports_of_mapNormalPath h
  obtain ⟨best, hbest, -⟩ := hreports.rule_eq
  obtain ⟨seen, hseen, -⟩ := outcome_findBest_iff.1 hbest
  obtain ⟨found, hfound⟩ := exists_matchesOf_listing hlistable hseen input
  have hwhole : ∀ r ∈ s.rules.rules, ∃ n, r.priority.whole? = some n :=
    fun r hr => (hlistable.printable r hr).whole_priority
  have hprintable : ∀ m ∈ found, IsPrintable m.rule := by
    intro m hm
    obtain ⟨r, hr, heval⟩ := (mem_of_matchesOf_iff hfound).1 hm
    obtain ⟨rfl, -⟩ := isMatch_of_evaluate heval
    exact hlistable.printable _ hr
  obtain ⟨lines, hlines⟩ := exists_mapM_eq_ok fun m hm => exists_matchLine (hprintable m hm)
  have hgroups := outcome_findConflicts_eq hwhole hfound
  obtain ⟨warnings, hwarnings⟩ : ∃ warnings,
      ((sharedRanksOf found).map (ofRank found)).mapM conflictLine = .ok warnings := by
    refine exists_mapM_eq_ok fun group hgroup => exists_conflictLine fun m hm => ?_
    obtain ⟨n, -, rfl⟩ := List.mem_map.1 hgroup
    exact hprintable m (mem_ofRank.1 hm).1
  exact ⟨{ exit := if found.isEmpty then exitNothing else 0, out := lines, err := warnings },
    fun _ => outcome_listing_iff.2 ⟨found, _, hfound, hgroups, hlines, hwarnings, rfl⟩⟩

/-! ## The rule of a mapping -/

/-- Where a path is mapped with success, there is a tag. -/
theorem exists_value_of_folderToTag
    (h : (s.perform interrupted (.folderToTag path)).outcome = .ok printed)
    (hexit : printed.exit = 0) :
    ∃ mapped v, (s.mapper.mapFolder path).outcome = .ok mapped ∧ mapped.value = some v := by
  rw [Session.perform, Attempt.outcome_bind, bind_eq_ok_iff] at h
  obtain ⟨mapped, hmapped, h⟩ := h
  rw [printMapped, Attempt.outcome_bind, bind_eq_ok_iff] at h
  obtain ⟨warnings, -, h⟩ := h
  cases hvalue : mapped.value with
  | some v => exact ⟨mapped, v, outcome_running_eq_ok_iff.1 hmapped, hvalue⟩
  | none =>
      simp only [hvalue, Attempt.outcome_pure, Except.ok.injEq] at h
      subst h
      cases hexit

/-- Where a path is mapped with success, it is by a rule that its normal form matches. -/
theorem exists_evaluate_of_folderToTag
    (h : (s.perform interrupted (.folderToTag path)).outcome = .ok printed)
    (hexit : printed.exit = 0) :
    ∃ mapped r m, (s.mapper.mapFolder path).outcome = .ok mapped ∧ mapped.rule = some r ∧
      r ∈ s.rules.rules ∧
      (evaluate (normalPath path) (s.mapper.query .folder .folderToTag) r).outcome = .ok (some m) := by
  obtain ⟨mapped, v, hmapped, hvalue⟩ := exists_value_of_folderToTag h hexit
  have hreports : s.mapper.Reports (normalPath path) mapped := reports_of_mapNormalPath hmapped
  obtain ⟨-, r, hrule, -⟩ := hreports.value_eq v hvalue
  obtain ⟨best, hbest, hselected⟩ := hreports.rule_eq
  obtain ⟨m, rfl, rfl⟩ := Option.map_eq_some_iff.1 (hselected.symm.trans hrule)
  obtain ⟨r, hr, heval⟩ := exists_evaluate_of_findBest hbest
  obtain ⟨rfl, -⟩ := isMatch_of_evaluate heval
  exact ⟨mapped, m.rule, m, hmapped, hrule, hr, heval⟩

/-- The rule that maps a path is listed exactly where the listing comes to an end and the path as it
was given matches the folder pattern of the rule. The normal form of the path matches it, so as soon
as all rules can be listed, the rule is listed for that. -/
theorem lists_of_folderToTag
    (h : (s.perform interrupted (.folderToTag path)).outcome = .ok printed)
    (hexit : printed.exit = 0) :
    ∃ mapped r pattern, (s.mapper.mapFolder path).outcome = .ok mapped ∧ mapped.rule = some r ∧
      r ∈ s.rules.rules ∧ r.folder.usedPattern? = some pattern ∧
      (∀ input, s.Lists input r ↔
        s.CanList input ∧ (isMatch input pattern "").outcome = .ok true) ∧
      (s.IsListable → (∀ input, s.CanList input) ∧ s.Lists (normalPath path) r) := by
  obtain ⟨mapped, r, m, hmapped, hrule, hr, heval⟩ := exists_evaluate_of_folderToTag h hexit
  obtain ⟨henabled, -, pattern, hpattern, hmatch, -⟩ := outcome_evaluate_eq_some_iff.1 heval
  have hused : s.listing.considers r = true := by
    rw [Query.considers, Bool.or_eq_true]
    exact henabled
  have hlists (input : String) : s.Lists input r ↔
      s.CanList input ∧ (isMatch input pattern "").outcome = .ok true :=
    lists_iff hr hused hpattern
  refine ⟨mapped, r, pattern, hmapped, hrule, hr, hpattern, hlists, fun hlistable => ?_⟩
  have hends : ∀ input, s.CanList input := canList_of_mapFolder hlistable hmapped
  exact ⟨hends, (hlists (normalPath path)).2 ⟨hends (normalPath path), hmatch⟩⟩

/-- A session with rules, and with settings that say nothing. -/
def Session.ofRules (rules : List Rule) : Session where
  settings := none
  layers := { content := fun _ => none }
  rules := { rules, options := [] }
  least := Level.warning.rank
  logFile := none
  files := { root := [], entries := [] }

/-- With a rule for folders and one for tags, the first maps a path and is listed for its normal
form, and for every spelling that its pattern matches. -/
theorem lists_of_folderToTag_projects :
    let projects : Rule := {
      id := .text "projects"
      name := .text "Projects"
      folder := { pattern := some "Projects/*", entryPoint := some "Projects" }
      tag := { entryPoint := some "project" } }
    let archive : Rule := {
      id := .text "archive"
      name := .text "Archive"
      direction := some .tagToFolder
      folder := { pattern := some "Projects/**" } }
    let s := Session.ofRules [projects, archive]
    (s.perform false (.folderToTag "/Projects/Alpha/")).outcome = .ok { out := ["#project/Alpha"] } ∧
      s.Lists "Projects/Alpha" projects ∧
      ∀ input, s.Lists input projects ↔ (isMatch input "Projects/*" "").outcome = .ok true := by
  intro projects archive s
  have hpath : normalPath "/Projects/Alpha/" = "Projects/Alpha" := by decide +kernel
  have hperform : (s.perform false (.folderToTag "/Projects/Alpha/")).outcome =
      .ok { out := ["#project/Alpha"] } :=
    eq_ok_of_toOption (by decide +kernel)
  have harchive : compile "Projects/**" "" = .ok _ :=
    compile_glob (by decide) (by decide) (by decide) (by decide) rfl
  have hlistable : s.IsListable := by
    refine ⟨fun r hr => ?_, fun r hr hdirection pattern hpattern refusal hrefusal => ?_⟩
    · rcases List.mem_pair.1 hr with rfl | rfl <;> exact ⟨⟨_, rfl⟩, ⟨0, rfl⟩, by decide⟩
    · rcases List.mem_pair.1 hr with rfl | rfl
      · cases hdirection
      · obtain rfl : "Projects/**" = pattern := Option.some.inj hpattern
        rw [harchive] at hrefusal
        cases hrefusal
  obtain ⟨mapped, r, pattern, hmapped, hrule, hr, hpattern, hlists, hnormal⟩ :=
    lists_of_folderToTag hperform rfl
  obtain ⟨hends, hlisted⟩ := hnormal hlistable
  obtain rfl : r = projects := by
    obtain ⟨mapped', r', m, hmapped', hrule', hr', heval⟩ :=
      exists_evaluate_of_folderToTag hperform rfl
    obtain rfl := Except.ok.inj (hmapped.symm.trans hmapped')
    obtain rfl := Option.some.inj (hrule.symm.trans hrule')
    obtain ⟨-, hadmits, -⟩ := outcome_evaluate_eq_some_iff.1 heval
    rcases List.mem_pair.1 hr with rfl | rfl
    · rfl
    · cases hadmits
  obtain rfl : "Projects/*" = pattern := Option.some.inj hpattern
  rw [hpath] at hlisted
  refine ⟨hperform, hlisted, fun input => ?_⟩
  rw [hlists]
  exact and_iff_right (hends input)

/-- A path between slashes is mapped, and nothing is listed for it. -/
theorem listing_misses_path_between_slashes :
    let projects : Rule := {
      id := .text "projects"
      name := .text "Projects"
      folder := { pattern := some "Projects/*", entryPoint := some "Projects" }
      tag := { entryPoint := some "project" } }
    let s := Session.ofRules [projects]
    (s.perform false (.folderToTag "/Projects/Alpha/")).outcome = .ok { out := ["#project/Alpha"] } ∧
      (∃ mapped, (s.mapper.mapFolder "/Projects/Alpha/").outcome = .ok mapped ∧
        mapped.rule = some projects) ∧
      (s.perform false (.matching (some .folder) true "/Projects/Alpha/")).outcome =
        .ok { exit := exitNothing } ∧
      ¬ s.Lists "/Projects/Alpha/" projects := by
  intro projects s
  have hperform : (s.perform false (.folderToTag "/Projects/Alpha/")).outcome =
      .ok { out := ["#project/Alpha"] } :=
    eq_ok_of_toOption (by decide +kernel)
  have hlisting : (s.perform false (.matching (some .folder) true "/Projects/Alpha/")).outcome =
      .ok { exit := exitNothing } :=
    eq_ok_of_toOption (by decide +kernel)
  obtain ⟨mapped, r, -, hmapped, hrule, hr, -⟩ := exists_evaluate_of_folderToTag hperform rfl
  obtain rfl := List.mem_singleton.1 hr
  refine ⟨hperform, ⟨mapped, hmapped, hrule⟩, hlisting, ?_⟩
  rintro ⟨found, printed, -, hprinted, hexit, -⟩
  obtain rfl := Except.ok.inj ((hprinted false).symm.trans hlisting)
  cases hexit

end FolderTag.Command
