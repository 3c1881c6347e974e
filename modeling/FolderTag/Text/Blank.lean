import FolderTag.Text.CodeRange

/-! # Blank characters

White space of any script, trimming and collapsing. -/

namespace FolderTag.Text

/-- The white space of Unicode 14, with the four information separators. -/
def blankRanges : List CodeRange := [
  ⟨0x9, 0xd⟩, ⟨0x1c, 0x20⟩, ⟨0x85, 0x85⟩, ⟨0xa0, 0xa0⟩, ⟨0x1680, 0x1680⟩, ⟨0x2000, 0x200a⟩,
  ⟨0x2028, 0x2029⟩, ⟨0x202f, 0x202f⟩, ⟨0x205f, 0x205f⟩, ⟨0x3000, 0x3000⟩]

def isBlank (c : Char) : Bool := CodeRange.covers blankRanges c.toNat

/-- The white space among the first 128 code points that terminals know: tab to carriage return
and the space. -/
def isAsciiBlank (c : Char) : Bool := c == ' ' || (9 ≤ c.toNat && c.toNat ≤ 13)

/-- Drops the characters at the end that satisfy `p`. -/
def dropEndWhile (p : Char → Bool) (s : List Char) : List Char :=
  (s.reverse.dropWhile p).reverse

/-- Drops the characters at both ends that satisfy `p`. -/
def trimWhile (p : Char → Bool) (s : List Char) : List Char :=
  dropEndWhile p (s.dropWhile p)

def trim (s : List Char) : List Char := trimWhile isBlank s

/-- Replaces every maximal run of characters that satisfy `p` by one `mark`. -/
def collapse (p : Char → Bool) (mark : Char) : List Char → List Char
  | [] => []
  | c :: cs =>
      if p c then mark :: collapse p mark (cs.dropWhile p) else c :: collapse p mark cs
termination_by s => s.length
decreasing_by
  · have := (List.dropWhile_sublist p (l := cs)).length_le
    simp only [List.length_cons]
    omega
  · simp

/-- Splits at every occurrence of `sep`; there is always one piece more than separators. -/
def splitAt (sep : Char) : List Char → List (List Char)
  | [] => [[]]
  | c :: cs =>
      if c = sep then [] :: splitAt sep cs
      else match splitAt sep cs with
        | [] => [[c]]
        | piece :: pieces => (c :: piece) :: pieces

def joinWith (sep : List Char) (pieces : List (List Char)) : List Char :=
  sep.intercalate pieces

end FolderTag.Text
