/-! # Cursors

A place in a text: the characters before it, nearest first, and those after it. -/

namespace FolderTag.Regex

/-- A place between two characters of a text. -/
structure Cursor where
  before : List Char
  after : List Char
  index : Nat
  index_eq : index = before.length := by rfl
deriving Repr

namespace Cursor

def start (text : List Char) : Cursor := ⟨[], text, 0, rfl⟩

def next? (c : Cursor) : Option (Char × Cursor) :=
  match c with
  | ⟨_, [], _, _⟩ => none
  | ⟨b, x :: xs, i, h⟩ => some (x, ⟨x :: b, xs, i + 1, by simp [h]⟩)

/-- The place `n` characters earlier, if the text reaches that far back. -/
def back? : Nat → Cursor → Option Cursor
  | 0, c => some c
  | n + 1, c =>
      match c with
      | ⟨[], _, _, _⟩ => none
      | ⟨x :: b, a, i, h⟩ => back? n ⟨b, x :: a, i - 1, by simp [h]⟩

/-- The characters from `a` to a later place `b`. -/
def upTo (a b : Cursor) : List Char := a.after.take (b.index - a.index)

def text (c : Cursor) : List Char := c.before.reverse ++ c.after

end Cursor

end FolderTag.Regex
