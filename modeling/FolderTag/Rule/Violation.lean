import FolderTag.Document.Choice
import FolderTag.Document.Display
import FolderTag.Document.Misuse
import FolderTag.Document.Obstacle

/-! # Violations

What is wrong with a stored rule or settings document, and how a document is taken apart with these
violations in mind. -/

namespace FolderTag.Rule

open FolderTag.Document

/-- A violation of the layout of stored rules and settings. -/
inductive Violation where
  | notMapping (what : String)
  | unknownFields (what : String) (names : List String)
  | missingFields (names : List String)
  | missingPattern
  | notAChoice (title : String) (value : Value) (names : List String)
  | notText (field kind : String)
  | settingsNotMapping
  | rulesNotList
  | ruleNotMapping (index : Nat)
  | duplicateId (index : Nat) (id : Value)
  | optionsNotMapping

def commaList (names : List String) : String := ", ".intercalate names

namespace Violation

def message : Violation → String
  | .notMapping what => what ++ " must be a dictionary"
  | .unknownFields what names => "Unknown " ++ what ++ " field(s): " ++ commaList names
  | .missingFields names => "Rule is missing required field(s): " ++ commaList names
  | .missingPattern => "Regex transform must have 'pattern' field"
  | .notAChoice title value names =>
      "Invalid " ++ title ++ " value: " ++ value.quotedString ++ ". Must be one of " ++
        quotedList names
  | .notText field kind => field ++ " must be a string, got " ++ kind
  | .settingsNotMapping => "Settings must be a dictionary"
  | .rulesNotList => "Rules must be a list"
  | .ruleNotMapping index =>
      "Invalid rule at index " ++ toString index ++ ": rule must be a dictionary"
  | .duplicateId index id =>
      "Duplicate rule ID at index " ++ toString index ++ ": " ++ id.shownString
  | .optionsNotMapping => "Options must be a dictionary"

/-- Whether two parts of the document are in conflict. -/
def isConflict : Violation → Bool
  | .duplicateId .. => true
  | _ => false

end Violation

/-- Why a stored value cannot be read. -/
inductive Fault where
  | violation (v : Violation)
  | misuse (m : Misuse)

def refuse {α : Type} (v : Violation) : Except Fault α := .error (.violation v)

def reject {α : Type} (m : Misuse) : Except Fault α := .error (.misuse m)

/-- Refuses a value that the message of the violation shows. -/
def refuseShown {α : Type} (shown : Value) (v : Violation) : Except Fault α :=
  if shown.isShowable then refuse v else reject .tooManyDigits

/-! ## Taking mappings apart -/

/-- The names among keys that have to be texts. -/
def keyNames : List Value → Except Misuse (List String)
  | [] => .ok []
  | .text s :: rest => return s :: (← keyNames rest)
  | v :: _ => .error (.notTextItem 0 v.fullKind)

/-- The keys of a mapping that are not in `known`, in order. -/
def strangeKeys (known : List String) (entries : Entries) : Except Misuse (List String) := do
  let strange := (entries.map (·.1)).filter fun k => !known.any fun n => k.equal (.text n)
  return (← keyNames strange).mergeSort

/-- The entries of a mapping that may have only known fields. -/
def knownFields (what : String) (known : List String) : Value → Except Fault Entries
  | .map entries =>
      match strangeKeys known entries with
      | .ok [] => .ok entries
      | .ok names => refuse (.unknownFields what names)
      | .error m => reject m
  | _ => refuse (.notMapping what)

/-- Reads a choice that may be left out. -/
def readChoice (α : Type) [Choice α] : Value → Except Fault (Option α)
  | .null => .ok none
  | v =>
      match (Choice.ofValue? v : Option α) with
      | some a => .ok (some a)
      | none => refuseShown v (.notAChoice (Choice.title α) v (Choice.names α))

def readText (field : String) : Value → Except Fault (Option String)
  | .null => .ok none
  | .text s => .ok (some s)
  | v => refuse (.notText field v.kind)

/-- The value of a field, or nothing. -/
def fieldOr (entries : Entries) (name : String) (default : Value) : Value :=
  (Value.field? name entries).getD default

/-- The entries for those fields that hold something. -/
def setFields (fields : List (String × Option Value)) : List (String × Value) :=
  fields.filterMap fun (name, v) => v.map (name, ·)

def present? (v : Value) : Option Value :=
  match v with
  | .null => none
  | v => some v

end FolderTag.Rule
