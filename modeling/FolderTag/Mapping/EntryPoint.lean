/-! # Entry points

An entry point is the path under which one side of a rule begins. It covers whole path segments. -/

namespace FolderTag.Mapping

/-- What is left of a text behind a beginning. -/
def behind? : (beginning text : List Char) → Option (List Char)
  | [], s => some s
  | _ :: _, [] => none
  | b :: bs, c :: cs => if b = c then behind? bs cs else none

/-- Removes an entry point and the slash behind it. -/
def stripEntry (entry path : List Char) : List Char :=
  if entry.isEmpty then path
  else if path = entry then []
  else (behind? (entry ++ ['/']) path).getD path

/-- Puts an entry point before a path, with a slash between them where both say something. -/
def joinEntry (entry path : List Char) : List Char :=
  if entry.isEmpty then path
  else if path.isEmpty then entry
  else entry ++ '/' :: path

/-- Removes the mark that tags begin with. -/
def stripHash : List Char → List Char
  | '#' :: s => s
  | s => s

/-- Puts the mark that tags begin with where it is missing. -/
def withHash (s : List Char) : List Char := if s.head? = some '#' then s else '#' :: s

end FolderTag.Mapping
