import FolderTag.Document.Value

/-! # Linked values

A block document can hold one mapping at several places. What is changed in it at one of them is
changed at all of them. -/

namespace FolderTag.Document

/-- A value whose mappings have marks: a mapping that stands at several places has the same mark at
each of them. -/
inductive Linked where
  /-- A value of which no part stands anywhere else. -/
  | plain (v : Value)
  | list (items : List Linked)
  | map (mark : Nat) (entries : List (Value × Linked))
deriving Inhabited

namespace Linked

mutual

/-- The value without the marks. -/
def value : Linked → Value
  | .plain v => v
  | .list items => .list (itemValues items)
  | .map _ entries => .map (entryValues entries)

def itemValues : List Linked → List Value
  | [] => []
  | t :: ts => t.value :: itemValues ts

def entryValues : List (Value × Linked) → Entries
  | [] => []
  | (k, t) :: rest => (k, t.value) :: entryValues rest

end

mutual

/-- Changes the mapping with a mark at all its places. -/
def change (mark : Nat) (f : Linked → Linked) : Linked → Linked
  | .plain v => .plain v
  | .list items => .list (changeItems mark f items)
  | .map m entries =>
      if m = mark then f (.map m entries) else .map m (changeEntries mark f entries)

def changeItems (mark : Nat) (f : Linked → Linked) : List Linked → List Linked
  | [] => []
  | t :: ts => t.change mark f :: changeItems mark f ts

def changeEntries (mark : Nat) (f : Linked → Linked) :
    List (Value × Linked) → List (Value × Linked)
  | [] => []
  | (k, t) :: rest => (k, t.change mark f) :: changeEntries mark f rest

end

end Linked

end FolderTag.Document
