import FolderTag.Document.Choice
import FolderTag.Text.Blank
import FolderTag.Text.Case
import FolderTag.Text.Class

/-! # Naming conventions

Conversions between the ways of writing a name that has several words. On a path, each segment is
converted by itself. -/

namespace FolderTag.Transform

open FolderTag.Document FolderTag.Text

/-- A way of writing names. -/
inductive Convention where
  | asIs
  | snake
  | kebab
  | camel
  | pascal
  | title
  | lower
  | upper
deriving Repr, DecidableEq

instance : Choice Convention where
  title := "CaseTransform"
  all := [.asIs, .snake, .kebab, .camel, .pascal, .title, .lower, .upper]
  name
    | .asIs => "none"
    | .snake => "snake_case"
    | .kebab => "kebab-case"
    | .camel => "camelCase"
    | .pascal => "PascalCase"
    | .title => "Title Case"
    | .lower => "lowercase"
    | .upper => "UPPERCASE"

/-- The capital form of one character; it may be longer. -/
def capital (c : Char) : List Char := upper [c]

/-! ## Words with separators between them -/

/-- Puts a separator before every capital letter of the Latin alphabet. -/
def markCapitals (sep : Char) (s : List Char) : List Char :=
  s.flatMap fun c => if c.isUpper then [sep, c] else [c]

/-- Lower case words with `sep` between them; `other` also separates words. -/
def separated (sep other : Char) (s : List Char) : List Char :=
  let words := collapse (fun c => isBlank c || c == other) sep (markCapitals sep s)
  (collapse (· == sep) sep (lower words)).dropWhile (· == sep)

/-- Lower case words with underscores between them. -/
def snake (s : List Char) : List Char := separated '_' '-' s

/-- Lower case words with hyphens between them. -/
def kebab (s : List Char) : List Char := separated '-' '_' s

/-! ## Capitalized words with blanks between them -/

/-- Capitalizes each word character that has none before it; `inWord` tells whether there is one
before the first. -/
def capitalizeWords (inWord : Bool) : List Char → List Char
  | [] => []
  | c :: cs =>
      (if isWordChar c && !inWord then capital c else [c]) ++ capitalizeWords (isWordChar c) cs

/-- Capitalized words with single blanks between them. -/
def title (s : List Char) : List Char :=
  let spaced := collapse (fun c => c == '_' || c == '-') ' ' s
  trim (collapse isBlank ' ' (capitalizeWords false spaced))

/-! ## Words run together -/

/-- What separates the words of a name. -/
def isSeparator (c : Char) : Bool := isBlank c || c == '_' || c == '-'

/-- A run of separators with no word behind it keeps its last character that is no line break,
unless that is its first, and the line breaks behind that. -/
def closingRun : List Char → List Char
  | [] => []
  | c :: cs =>
      let breaks := (cs.reverse.takeWhile (· == '\n')).reverse
      match cs.reverse.dropWhile (· == '\n') with
      | [] => c :: cs
      | last :: _ => last :: breaks

/-- Drops the separators between words and capitalizes the character behind them. -/
def joinWords : List Char → List Char
  | [] => []
  | c :: cs =>
      if isSeparator c then
        match _h : cs.dropWhile isSeparator with
        | [] => closingRun (c :: cs)
        | x :: rest => capital x ++ joinWords rest
      else c :: joinWords cs
termination_by s => s.length
decreasing_by
  · have := (List.dropWhile_sublist isSeparator (l := cs)).length_le
    simp only [_h, List.length_cons] at this ⊢
    omega
  · simp

def mapFirst (f : List Char → List Char) : List Char → List Char
  | [] => []
  | c :: cs => f [c] ++ cs

/-- Words run together, all but the first capitalized. -/
def camel (s : List Char) : List Char := mapFirst lower (joinWords s)

/-- Words run together, all of them capitalized. -/
def pascal (s : List Char) : List Char := mapFirst upper (joinWords s)

/-! ## Applying a convention -/

/-- The convention that a stored value names. Nothing is changed where it names none. -/
def Convention.ofValue (v : Value) : Convention := (Choice.ofValue? v).getD .asIs

def Convention.apply : Convention → List Char → List Char
  | .asIs, s => s
  | .snake, s => Transform.snake s
  | .kebab, s => Transform.kebab s
  | .camel, s => Transform.camel s
  | .pascal, s => Transform.pascal s
  | .title, s => Transform.title s
  | .lower, s => Text.lower s
  | .upper, s => Text.upper s

/-- Writes every segment of a path in a convention. -/
def Convention.applyToPath (k : Convention) (path : List Char) : List Char :=
  joinWith ['/'] ((splitAt '/' path).map k.apply)

end FolderTag.Transform
