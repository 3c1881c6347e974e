import FolderTag.Pattern.FlagText

/-! # What flag texts switch on

An accepted flag text switches on what its letters ask for and nothing else. -/

namespace FolderTag.Pattern

/-- The switches with those that the letters ask for. -/
def switchedOn (switches : Regex.Flags) (letters : List Char) : Regex.Flags :=
  { switches with
    ignoreCase := switches.ignoreCase || letters.contains 'i'
    multiline := switches.multiline || letters.contains 'm'
    dotAll := switches.dotAll || letters.contains 's' }

theorem switches_of_add? {choice next : FlagChoice} {c : Char} (h : choice.add? c = some next)
    (letters : List Char) :
    switchedOn next.switches letters = switchedOn choice.switches (c :: letters) := by
  unfold FlagChoice.add? at h
  split at h <;> cases h <;> simp [switchedOn]

theorem switches_of_readFlagsAfter {seen letters : List Char} {choice result : FlagChoice}
    (h : readFlagsAfter seen choice letters = some result) :
    result.switches = switchedOn choice.switches letters := by
  induction letters generalizing seen choice with
  | nil =>
      cases h
      simp [switchedOn]
  | cons c letters ih =>
      rw [readFlagsAfter] at h
      split at h
      · cases h
      · split at h
        · cases h
        · rename_i next hnext
          rw [ih h, switches_of_add? hnext]

/-- The switches of a flag text are those of its letters. -/
theorem switches_of_readFlags? {flags : String} {choice : FlagChoice}
    (h : readFlags? flags = some choice) : choice.switches = switchedOn .none flags.toList :=
  switches_of_readFlagsAfter h

end FolderTag.Pattern
