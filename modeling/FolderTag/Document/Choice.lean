import FolderTag.Document.Value

/-! # Choices

A setting that is one of a few possibilities is stored as the name of the one chosen. -/

namespace FolderTag.Document

/-- A type of possibilities, each stored under a name. -/
class Choice (α : Type) where
  /-- What messages call the possibilities. -/
  title : String
  /-- The possibilities in the order in which messages list them. -/
  all : List α
  /-- The stored name of a possibility. -/
  name : α → String

namespace Choice

variable {α : Type} [Choice α]

def names (α : Type) [Choice α] : List String := (all : List α).map name

/-- The possibility with a stored name. -/
def ofName? (s : String) : Option α := all.find? fun a => name a = s

def ofValue? : Value → Option α
  | .text s => ofName? s
  | _ => none

def value (a : α) : Value := .text (name a)

theorem eq_value_of_ofValue? {v : Value} {a : α} (h : ofValue? v = some a) : v = value a := by
  cases v with
  | text s =>
      have hname := List.find?_some h
      rw [decide_eq_true_eq] at hname
      rw [value, hname]
  | _ => cases h

end Choice

end FolderTag.Document
