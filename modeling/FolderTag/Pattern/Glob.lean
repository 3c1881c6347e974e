import FolderTag.Text.Replace

/-! # Glob patterns

A glob is a path in which `*`, `**` and `?` stand for other characters. It is cut into pieces, and
the pieces are written as the source of a regular expression that has to match a whole path. -/

namespace FolderTag.Pattern

namespace Glob

/-- A piece of a glob. -/
inductive Piece where
  /-- The character itself. -/
  | literal (c : Char)
  /-- `/**/` stands for a slash, with any number of path segments before it. -/
  | between
  /-- `**/` at the very start stands for any number of leading path segments. -/
  | leading
  /-- Any other `**` stands for anything on one line. -/
  | anything
  /-- `*` stands for anything without a slash. -/
  | within
  /-- `?` stands for one character. -/
  | single
deriving Repr, DecidableEq

/-- Cuts the rest of a glob into pieces, from left to right. -/
def cut : List Char → List Piece
  | '/' :: '*' :: '*' :: '/' :: cs => .between :: cut cs
  | '*' :: '*' :: cs => .anything :: cut cs
  | '*' :: cs => .within :: cut cs
  | '?' :: cs => .single :: cut cs
  | c :: cs => .literal c :: cut cs
  | [] => []

/-- Whether a glob begins with `**/` and that slash does not begin a `/**/`. -/
def beginsAnywhere (glob : List Char) : Bool :=
  "**/".toList.isPrefixOf glob && !"**/**/".toList.isPrefixOf glob

/-- The pieces of a glob. -/
def pieces (glob : List Char) : List Piece :=
  if beginsAnywhere glob then .leading :: cut (glob.drop 3) else cut glob

/-- The characters that mean something in a regular expression and nothing in a glob. -/
def isSpecial (c : Char) : Bool := ".+^$\x7b\x7d()|[]\\".toList.contains c

/-- The word that holds the place of `**` until the whole glob is written. -/
def anythingWord : List Char := "\x00DOUBLESTAR\x00".toList

/-- The word that holds the place of `/**/`. -/
def betweenWord : List Char := "\x00PATHSEG\x00".toList

/-- The word that holds the place of a leading `**/`. -/
def leadingWord : List Char := "\x00STARTPATHSEG\x00".toList

/-- The regular expression for `**`. -/
def anythingSource : List Char := ".*".toList

/-- The regular expression for `/**/`. -/
def betweenSource : List Char := "(?:/[^/]+)*/".toList

/-- The regular expression for a leading `**/`. -/
def leadingSource : List Char := "(?:[^/]+/)*".toList

/-- Writes a piece, with a reserved word for the wildcards that cross slashes. -/
def Piece.draft : Piece → List Char
  | .literal c => if isSpecial c then ['\\', c] else [c]
  | .between => betweenWord
  | .leading => leadingWord
  | .anything => anythingWord
  | .within => "[^/]*".toList
  | .single => ['.']

/-- Replaces the reserved words. A glob that spells one of them means the wildcard, too. -/
def settle (s : List Char) : List Char :=
  Text.replaceAll leadingWord leadingSource
    (Text.replaceAll betweenWord betweenSource (Text.replaceAll anythingWord anythingSource s))

/-- The source of the regular expression for a glob, tied to both ends. -/
def sourceChars (glob : List Char) : List Char :=
  '^' :: (settle ((pieces glob).flatMap Piece.draft) ++ ['$'])

def source (glob : String) : String := String.ofList (sourceChars glob.toList)

end Glob

/-- A pattern is a glob when it holds an asterisk or a question mark. -/
def isGlob (pattern : String) : Bool := pattern.toList.any fun c => c == '*' || c == '?'

end FolderTag.Pattern
