import FolderTag.Document.Choice
import FolderTag.Text.Blank

/-! # Emoji and characters without a place in tags -/

namespace FolderTag.Transform

open FolderTag.Document FolderTag.Text

/-- What is done with emoji. -/
inductive EmojiMode where
  | keep
  | strip
deriving Repr, DecidableEq

instance : Choice EmojiMode where
  title := "EmojiHandling"
  all := [.keep, .strip]
  name
    | .keep => "keep"
    | .strip => "strip"

/-- The blocks whose characters count as emoji. -/
def emojiRanges : List CodeRange := [
  ⟨0x2600, 0x26ff⟩, ⟨0x2700, 0x27bf⟩, ⟨0x2b00, 0x2bff⟩, ⟨0x1f000, 0x1f02f⟩, ⟨0x1f1e0, 0x1f1ff⟩,
  ⟨0x1f300, 0x1f5ff⟩, ⟨0x1f600, 0x1f64f⟩, ⟨0x1f680, 0x1f6ff⟩, ⟨0x1f900, 0x1f9ff⟩,
  ⟨0x1fa00, 0x1fa6f⟩, ⟨0x1fa70, 0x1faff⟩]

def isEmoji (c : Char) : Bool := CodeRange.covers emojiRanges c.toNat

/-- Whether a character selects a variant of the one before it. -/
def isSelector (c : Char) : Bool := 0xfe00 ≤ c.toNat && c.toNat ≤ 0xfe0f

/-- Removes emoji and selectors, leaving single blanks between what stays. -/
def stripEmoji (s : List Char) : List Char :=
  trim (collapse isBlank ' ' (s.filter fun c => !(isEmoji c || isSelector c)))

def containsEmoji (s : List Char) : Bool := s.any isEmoji

/-- The emoji of a text, each with the selector right behind it. -/
def emojiOf : List Char → List (List Char)
  | [] => []
  | c :: cs =>
      if isEmoji c then (c :: (cs.head?.filter isSelector).toList) :: emojiOf cs else emojiOf cs

def EmojiMode.apply : EmojiMode → List Char → List Char
  | .keep, s => s
  | .strip, s => stripEmoji s

/-- The characters that a tag cannot hold. -/
def tagBreakers : List Char := ['.', ':', ';', ',', '?', '!', '@', '\\']

def dropTagBreakers (s : List Char) : List Char := s.filter fun c => !tagBreakers.contains c

end FolderTag.Transform
