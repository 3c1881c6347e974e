import FolderTag.Document.Linked
import FolderTag.Document.Misuse
import FolderTag.Settings.Defaults
import FolderTag.Text.Blank

/-! # Layers of settings

Settings come from several sources. A source covers those before it: for each key the last source
that says something counts. -/

namespace FolderTag.Settings

open FolderTag.Document

/-- Where settings come from. -/
inductive Source where
  | defaults
  | userFile
  | environment
  | commandLine
  | run
deriving Repr, DecidableEq

namespace Source

/-- The sources, each before those that cover it. -/
def all : List Source := [.defaults, .userFile, .environment, .commandLine, .run]

end Source

/-- What each source says; a source may say nothing at all. -/
structure Layers where
  content : Source → Option Linked

/-- The value that a source says. -/
def Layers.layer (l : Layers) (s : Source) : Option Value := (l.content s).map Linked.value

/-! ## Keys -/

/-- The parts of a key between points. -/
def keyParts (key : String) : List String :=
  (Text.splitAt '.' key.toList).map String.ofList

/-- The value under a key, going through one section for each part. -/
def valueAt? : List String → Value → Option Value
  | [], v => some v
  | k :: ks, .map entries => (Value.field? k entries).bind (valueAt? ks)
  | _ :: _, _ => none

/-- A value that says something. -/
def said? : Value → Option Value
  | .null => none
  | v => some v

/-- The section under a part of a key, or a new one. -/
def sectionOr (k : String) (entries : Entries) : Entries :=
  match Value.field? k entries with
  | some (.map inner) => inner
  | _ => []

/-- Puts a value under a key of a section; what is in the way gives way to sections. -/
def putAt (value : Value) : List String → Entries → Entries
  | [], entries => entries
  | [k], entries => Value.put (.text k) value entries
  | k :: ks, entries => Value.put (.text k) (.map (putAt value ks (sectionOr k entries))) entries

/-! ## Keys of linked mappings -/

/-- The linked section under a part of a key, or a new one. -/
def linkedSectionOr (k : String) (entries : List (Value × Linked)) : Linked :=
  match Value.field? k entries with
  | some (.map mark inner) => .map mark inner
  | some (.plain (.map inner)) => .plain (.map inner)
  | _ => .plain (.map [])

/-- Puts a value under a key of a linked mapping, at this place of it alone. -/
def putHere (value : Value) : List String → Linked → Linked
  | parts, .plain (.map entries) => .plain (.map (putAt value parts entries))
  | [k], .map mark entries => .map mark (Value.put (.text k) (.plain value) entries)
  | k :: ks, .map mark entries =>
      .map mark (Value.put (.text k) (putHere value ks (linkedSectionOr k entries)) entries)
  | _, t => t

/-- The last marked mapping that a key leads through, and what is left of the key from the first
place of it on the way. -/
def lastMarked? : List String → Linked → Option (Nat × List String)
  | k :: ks, .map mark entries =>
      let further := (Value.field? k entries).bind (lastMarked? ks)
      some ((further.filter (·.1 ≠ mark)).getD (mark, k :: ks))
  | _, _ => none

/-- Puts a value under a key of a linked mapping, wherever the mapping stands that it gets into. -/
def putLinked (value : Value) (parts : List String) (t : Linked) : Linked :=
  match lastMarked? parts t with
  | some (mark, rest) => t.change mark (putHere value rest)
  | none => putHere value parts t

/-! ## Merging -/

mutual

/-- A value over another one. Mappings are merged, all else is covered. -/
def mergeValue (below : Option Value) : Value → Value
  | .map entries =>
      match below with
      | some (.map base) => .map (mergeEntries base entries)
      | _ => .map entries
  | v => v

/-- Entries over others, one after the other. -/
def mergeEntries (base : Entries) : List (Value × Value) → Entries
  | [] => base
  | (k, v) :: rest => mergeEntries (Value.put k (mergeValue (Value.find? k base) v) base) rest

end

namespace Layers

/-- Settings of which only the defaults are known. -/
def start : Layers where
  content
    | .defaults => some (.plain (Value.ofFields defaultSettings))
    | _ => none

/-- Lets a source say something else. -/
def replace (l : Layers) (s : Source) (t : Option Linked) : Layers where
  content u := if u = s then t else l.content u

def sayingAt? (l : Layers) (key : String) (s : Source) : Option Value :=
  (l.layer s).bind fun v => (valueAt? (keyParts key) v).bind said?

def get? (l : Layers) (key : String) : Option Value := Source.all.reverse.findSome? (l.sayingAt? key)

/-- What a source holds; one that says nothing holds an empty mapping. -/
def held (l : Layers) (s : Source) : Linked := (l.content s).getD (.plain (.map []))

/-- Sets the value under a key of a source. A source that is no mapping cannot take it. -/
def set (l : Layers) (s : Source) (key : String) (value : Value) : Except Misuse Layers :=
  match (l.held s).value, keyParts key with
  | .map _, parts => .ok (l.replace s (some (putLinked value parts (l.held s))))
  | v, [_] => .error (.notMapping v.kind)
  | v, _ => .error (.noPart v.kind "get")

def mergeSources (l : Layers) : List Source → Entries → Except Misuse Entries
  | [], merged => .ok merged
  | s :: rest, merged =>
      match l.layer s with
      | none => l.mergeSources rest merged
      | some (.map entries) => l.mergeSources rest (mergeEntries merged entries)
      | some v => .error (.noPart v.kind "items")

def merged (l : Layers) : Except Misuse Entries := l.mergeSources Source.all []

/-- Takes back what a source said, or what all said. The defaults stay. -/
def clear (l : Layers) (source : Option Source) : Layers where
  content t := if t = .defaults ∨ source.any (· ≠ t) then l.content t else none

end Layers

end FolderTag.Settings
