import FolderTag.Rule.Basic
import FolderTag.Settings.Defaults
import FolderTag.Settings.Refusal

/-! # Rule sets

A settings document holds rules and the options of the host. The order of the rules counts. -/

namespace FolderTag.Settings

open FolderTag.Document FolderTag.Rule

/-! ## The layout of a document -/

/-- Whether a rule may stand at an index behind rules with the ids `seen`. Answers its id. -/
def checkRule (index : Nat) (seen : List Value) : Value → Except Rule.Fault Value
  | .map entries => do
      let id ← (fieldOr entries "id" .null).asKey.mapError .misuse
      if seen.any (·.equal id) then Rule.refuseShown id (.duplicateId index id)
      return id
  | _ => Rule.refuse (.ruleNotMapping index)

/-- Checks that rules are mappings with different ids. -/
def checkRules (index : Nat) (seen : List Value) : List Value → Except Rule.Fault Unit
  | [] => .ok ()
  | v :: vs => do
      let id ← checkRule index seen v
      checkRules (index + 1) (id :: seen) vs

/-- Checks the layout of a settings document. The rules themselves are read later. -/
def checkLayout : Value → Except Rule.Fault Unit
  | .map entries => do
      match fieldOr entries "rules" (.list []) with
      | .list rules => checkRules 0 [] rules
      | _ => Rule.refuse .rulesNotList
      match fieldOr entries "options" (.map []) with
      | .map _ => return ()
      | _ => Rule.refuse .optionsNotMapping
  | _ => Rule.refuse .settingsNotMapping

end FolderTag.Settings

namespace FolderTag

open FolderTag.Document FolderTag.Rule FolderTag.Settings

/-- Rules and the options of a host. -/
structure RuleSet where
  rules : List Rule
  options : Entries

namespace RuleSet

/-- The options of a document over the default options. -/
def optionsOf (given : Entries) : Entries :=
  given.foldl (fun acc (k, v) => Value.put k v acc)
    (defaultOptions.map fun (k, v) => (Value.text k, v))

/-- A fault in a document as a whole. -/
def documentFault : Rule.Fault → Settings.Fault
  | .violation v => .refusal (.violation v)
  | .misuse m => .misuse m

def ruleFault (index : Nat) : Rule.Fault → Settings.Fault
  | .violation v => .refusal (.badRule index v)
  | .misuse m => .misuse m

def readRules (index : Nat) : List Value → Except Settings.Fault (List Rule)
  | [] => .ok []
  | v :: vs => do
      let rule ← (Rule.ofValue v).mapError (ruleFault index)
      return rule :: (← readRules (index + 1) vs)

/-- The rule set of the entries of a checked document. -/
def ofEntries (entries : Entries) : Except Settings.Fault RuleSet := do
  match ← (strangeKeys knownKeys entries).mapError .misuse with
  | [] => pure ()
  | names => Settings.refuse (.unknownKeys names)
  let rules ← match fieldOr entries "rules" (.list []) with
    | .list vs => readRules 0 vs
    | _ => pure []
  let options := match fieldOr entries "options" (.map []) with
    | .map given => given
    | _ => []
  return { rules, options := optionsOf options }

/-- Reads a settings document. Nothing stands for an empty one. -/
def ofValue (v : Value) : Except Settings.Fault RuleSet := do
  let document := match v with
    | .null => .map []
    | v => v
  (checkLayout document).mapError documentFault
  match document with
  | .map entries => ofEntries entries
  | _ => ofEntries []

def empty : RuleSet := { rules := [], options := optionsOf [] }

def toValue (s : RuleSet) : Except Misuse Value := do
  return Value.ofFields [
    ("version", layoutVersion),
    ("rules", .list (← s.rules.mapM Rule.toValue)),
    ("options", .map s.options)]

def get? (s : RuleSet) (id : Value) : Option Rule := s.rules.find? fun r => r.id.equal id

def isSet (s : RuleSet) (option : String) : Bool :=
  ((Value.field? option s.options).map Value.isSet).getD false

/-- Whether two rule sets have equal stored forms. -/
def agrees (a b : RuleSet) : Bool :=
  match a.toValue, b.toValue with
  | .ok x, .ok y => x.equal y
  | _, _ => false

end RuleSet

end FolderTag
