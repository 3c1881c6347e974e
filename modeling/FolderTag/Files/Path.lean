import FolderTag.Text.Blank

/-! # Paths

A path names a place part by part, from a folder or, if it begins with a slash, from the top of all
folders. -/

namespace FolderTag.Files

/-- The parts of a path from the outside in. The slashes that it begins with are its first part. -/
abbrev Path := List String

/-- The name of the folder that a folder is in. -/
def parentName : String := ".."

namespace Path

/-- The slashes that a written path begins with. Two are something of their own; more are one. -/
def top (s : List Char) : Path :=
  match (s.takeWhile (· = '/')).length with
  | 0 => []
  | 2 => ["//"]
  | _ => ["/"]

def isTop (part : String) : Bool := part.toList.head? = some '/'

/-- The parts of a written path. Empty parts and single points say nothing. -/
def ofString (s : String) : Path :=
  top s.toList ++
    ((Text.splitAt '/' s.toList).filter fun p => p ≠ [] ∧ p ≠ ['.']).map String.ofList

def toString : Path → String
  | [] => "."
  | first :: rest =>
      if isTop first then first ++ "/".intercalate rest else "/".intercalate (first :: rest)

def isFull (p : Path) : Bool := p.head?.any isTop

/-- The way back from a place. There is none from the top, and beyond the folder where a path begins
it leads on outwards. -/
def up (p : Path) : Path :=
  match p.getLast? with
  | none => [parentName]
  | some s => if s = parentName then p ++ [parentName] else if isTop s then p else p.dropLast

/-- A path where ways back are taken. -/
def straight (p : Path) : Path :=
  p.foldl (fun acc s => if s = parentName then up acc else acc ++ [s]) []

/-- What a file name ends with, from its last point on. A name that begins or ends with its only
point has no such ending. -/
def ending (name : List Char) : List Char :=
  let back := name.reverse.takeWhile (· ≠ '.')
  let before := name.dropLast.length - back.length
  if back.length < name.length ∧ 0 < before ∧ !back.isEmpty then '.' :: back.reverse else []

end Path

end FolderTag.Files
